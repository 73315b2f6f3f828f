import PoolFees.Proofs.MulDiv.Loose

/-!
# Multiplying and dividing is exact

For three values that denote amounts, the result of multiplying and dividing is the exact quotient
rounded down, and it is absent only when there is no such amount. It is never refused, it is the
same for all limits, and the factors can be exchanged.
-/

namespace PoolFees.Store

variable {store : Store} {left right divisor : Value}

/-- A value that denotes an amount is bound to that amount. -/
theorem bind_amount {value : Value} {number : Nat} (denotes : store.Denotes value number)
    (fits : Fits MulDiv.amountWidth number) :
    LooseWord.bind store (.whole MulDiv.amountWidth) value =
      .ok (.ofWord ⟨MulDiv.amount, number, fits⟩) :=
  bind_of_fits (MulDiv.holds_amount store) denotes fits

/-- Values that are bound to amounts are multiplied and divided exactly. -/
theorem mulDiv_eq_scaled? (limits : MulDiv.Limits) {leftWord rightWord divisorWord : Word}
    (leftBinds : LooseWord.bind store (.whole MulDiv.amountWidth) left = .ok (.ofWord leftWord))
    (rightBinds : LooseWord.bind store (.whole MulDiv.amountWidth) right = .ok (.ofWord rightWord))
    (divisorBinds :
      LooseWord.bind store (.whole MulDiv.amountWidth) divisor = .ok (.ofWord divisorWord)) :
    store.mulDiv limits left right divisor =
      .ok (MulDiv.scaled? leftWord.value rightWord.value divisorWord.value) := by
  have left_bits := LooseWord.bits_of_bind leftBinds
  have right_bits := LooseWord.bits_of_bind rightBinds
  have divisor_bits := LooseWord.bits_of_bind divisorBinds
  rw [mulDiv, recordMulDiv_of_bind limits leftBinds rightBinds divisorBinds]
  apply MulDiv.found_route_eq_scaled?
  · omega
  · exact Width.eq_of_bits (by omega)
  · exact Width.eq_of_bits (by omega)

/-- Bare amounts are multiplied and divided exactly, whatever the store holds. -/
theorem compute_eq_scaled? (limits : MulDiv.Limits) {leftNumber rightNumber divisorNumber : Nat}
    (leftFits : Fits MulDiv.amountWidth leftNumber)
    (rightFits : Fits MulDiv.amountWidth rightNumber)
    (divisorFits : Fits MulDiv.amountWidth divisorNumber) :
    MulDiv.compute limits (.whole leftNumber) (.whole rightNumber) (.whole divisorNumber) =
      .ok (MulDiv.scaled? leftNumber rightNumber divisorNumber) :=
  @mulDiv_eq_scaled? Store.empty _ _ _ limits _ _ _ (bind_amount (.inl rfl) leftFits)
    (bind_amount (.inl rfl) rightFits) (bind_amount (.inl rfl) divisorFits)

/-- The first operand that is refused decides, whatever the others are. -/
theorem mulDiv_eq_error_of_left (limits : MulDiv.Limits) {fault : Fault}
    (refused : LooseWord.bind store (.whole MulDiv.amountWidth) left = .error fault) :
    store.mulDiv limits left right divisor = .error fault := by
  have leftRead : (LooseWord.representation store).bind left = .error fault := refused
  rw [mulDiv, recordMulDiv_eq_loose, MulDiv.find, MulDiv.call, leftRead]
  rfl

/-- Amounts are multiplied and divided exactly under all limits, so the balanced and the imbalanced
ones agree and the factors can be exchanged. -/
theorem mulDiv_of_amounts {leftNumber rightNumber divisorNumber : Nat}
    (leftDenotes : store.Denotes left leftNumber) (rightDenotes : store.Denotes right rightNumber)
    (divisorDenotes : store.Denotes divisor divisorNumber)
    (leftFits : Fits MulDiv.amountWidth leftNumber)
    (rightFits : Fits MulDiv.amountWidth rightNumber)
    (divisorFits : Fits MulDiv.amountWidth divisorNumber) :
    (∀ limits, store.mulDiv limits left right divisor =
      .ok (MulDiv.scaled? leftNumber rightNumber divisorNumber)) ∧
    store.mulDiv MulDiv.balanced left right divisor =
      store.mulDiv MulDiv.imbalanced left right divisor ∧
    ∀ limits, store.mulDiv limits left right divisor =
      store.mulDiv limits right left divisor := by
  have leftBinds := bind_amount leftDenotes leftFits
  have rightBinds := bind_amount rightDenotes rightFits
  have divisorBinds := bind_amount divisorDenotes divisorFits
  refine ⟨?_, ?_, ?_⟩
  · intro limits
    exact mulDiv_eq_scaled? limits leftBinds rightBinds divisorBinds
  · rw [mulDiv_eq_scaled? MulDiv.balanced leftBinds rightBinds divisorBinds,
      mulDiv_eq_scaled? MulDiv.imbalanced leftBinds rightBinds divisorBinds]
  · intro limits
    rw [mulDiv_eq_scaled? limits leftBinds rightBinds divisorBinds,
      mulDiv_eq_scaled? limits rightBinds leftBinds divisorBinds, MulDiv.scaled?_comm]

/-- Two factors of 33 bits, one of them in a word to the width of which a text was assigned: the
product does not fit 64 bits, and half of it does. -/
theorem mulDiv_of_assigned_word :
    Fits MulDiv.amountWidth 4294967296 ∧ Fits MulDiv.amountWidth 2 ∧
      ∀ limits, mulDiv ⟨[⟨.whole 4294967296, .text "wide"⟩], [], [], .usual⟩ limits (.sharedWord 0)
        (.whole 4294967296) (.whole 2) = .ok (some 9223372036854775808) := by
  have factorFits : Fits MulDiv.amountWidth 4294967296 := by decide
  have divisorFits : Fits MulDiv.amountWidth 2 := by decide
  refine ⟨factorFits, divisorFits, ?_⟩
  intro limits
  exact (mulDiv_of_amounts (.inr ⟨_, rfl⟩) (.inl rfl) (.inl rfl) factorFits factorFits
    divisorFits).1 limits

end PoolFees.Store
