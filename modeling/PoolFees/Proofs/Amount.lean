import PoolFees.Amount
import PoolFees.Proofs.Numeral.Grammar

/-!
# Amounts from texts and integers

A text is an amount exactly when it denotes one by the grammar of integer literals. Otherwise the
fault tells whether it denotes a negative number, a number beyond 64 bits or none at all, and its
message shows the text as it was given. What is accepted is read again as the same amount, both as
the integer and as the numeral of it.
-/

namespace PoolFees.Amount

/-- A fault that shows a text always has a message. -/
@[simp]
theorem negative_text_reported (text : String) :
    (AmountFault.negative (.text text)).reported = .negative (.text text) := by
  simp [AmountFault.reported, AmountFault.numerals, Shown.numerals]

@[simp]
theorem tooLarge_text_reported (text : String) :
    (AmountFault.tooLarge (.text text)).reported = .tooLarge (.text text) := by
  simp [AmountFault.reported, AmountFault.numerals, Shown.numerals]

/-- An integer is negative, an amount or too large. -/
theorem integer_cases (number : Int) :
    number < 0 ∨ (∃ amount : UInt64, number = amount.toNat) ∨ (UInt64.size : Int) ≤ number := by
  by_cases negative : number < 0
  · exact .inl negative
  · by_cases below : number.toNat < UInt64.size
    · refine .inr (.inl ⟨UInt64.ofNatLT number.toNat below, ?_⟩)
      rw [UInt64.toNat_ofNatLT]
      omega
    · exact .inr (.inr (by omega))

variable {given : Shown} {number : Int} {text : String}

theorem ofInt_of_negative (negative : number < 0) :
    ofInt given number = .error (AmountFault.negative given).reported := if_pos negative

theorem ofInt_of_tooLarge (above : (UInt64.size : Int) ≤ number) :
    ofInt given number = .error (AmountFault.tooLarge given).reported := by
  have natural : ¬number < 0 := by omega
  have notBelow : ¬number.toNat < UInt64.size := by omega
  simp only [ofInt, natural, if_false, notBelow, dite_false]

theorem ofInt_amount (given : Shown) (amount : UInt64) :
    ofInt given amount.toNat = .ok amount := by
  have natural : ¬(amount.toNat : Int) < 0 := by omega
  have below : (amount.toNat : Int).toNat < UInt64.size := amount.toNat_lt
  simp only [ofInt, natural, if_false, below, dite_true, Except.ok.injEq]
  exact UInt64.toNat_inj.1 UInt64.toNat_ofNatLT

/-- A text that denotes a number is checked as that number. -/
theorem ofValue_text_of_denotes (denotes : Numeral.Denotes text number) :
    ofValue (.text text) = ofInt (.text text) number := by
  simp only [ofValue, Numeral.read?_eq_some_iff.2 denotes]

theorem ofValue_text_of_absent (absent : ¬∃ number, Numeral.Denotes text number) :
    ofValue (.text text) = .error (.notNumeral text) := by
  have unread : Numeral.read? text = none := by
    cases read : Numeral.read? text with
    | none => rfl
    | some found => exact absurd ⟨found, Numeral.read?_eq_some_iff.1 read⟩ absent
  simp only [ofValue, unread]

/-- The four outcomes of reading a text, told apart by the number that it denotes. -/
theorem ofValue_text_cases (text : String) :
    ((¬∃ number, Numeral.Denotes text number) ∧
      ofValue (.text text) = .error (.notNumeral text)) ∨
    ∃ number, (∀ other, Numeral.Denotes text other ↔ other = number) ∧
      (number < 0 ∧ ofValue (.text text) = .error (.negative (.text text)) ∨
        (∃ amount : UInt64, number = amount.toNat ∧ ofValue (.text text) = .ok amount) ∨
        (UInt64.size : Int) ≤ number ∧ ofValue (.text text) = .error (.tooLarge (.text text))) := by
  by_cases present : ∃ number, Numeral.Denotes text number
  · rcases present with ⟨number, denotes⟩
    refine .inr ⟨number, ?_, ?_⟩
    · intro other
      constructor
      · intro otherDenotes
        exact otherDenotes.unique denotes
      · rintro rfl
        exact denotes
    · rw [ofValue_text_of_denotes denotes]
      rcases integer_cases number with negative | ⟨amount, rfl⟩ | above
      · exact .inl ⟨negative, by rw [ofInt_of_negative negative, negative_text_reported]⟩
      · exact .inr (.inl ⟨amount, rfl, ofInt_amount _ amount⟩)
      · exact .inr (.inr ⟨above, by rw [ofInt_of_tooLarge above, tooLarge_text_reported]⟩)
  · exact .inl ⟨present, ofValue_text_of_absent present⟩

/-- Amounts are short enough to be written. -/
theorem writable_toNat (amount : UInt64) : Numeral.Writable amount.toNat := by
  have enough : UInt64.size ≤ Nat.pow 10 20 := by decide
  exact Numeral.writable_of_lt_pow (Nat.lt_of_lt_of_le amount.toNat_lt enough) (by decide)

/-- An amount is read back from its numeral. -/
theorem ofValue_write (amount : UInt64) :
    ofValue (.text (Numeral.write amount.toNat)) = .ok amount := by
  rw [ofValue_text_of_denotes (Numeral.denotes_write (writable_toNat amount))]
  exact ofInt_amount _ amount

/-- The message about a text that is refused shows it unchanged. -/
theorem message_shows_text {fault : AmountFault} (refused : ofValue (.text text) = .error fault) :
    ∃ before after, fault.message = before ++ text ++ after := by
  rcases ofValue_text_cases text with ⟨_, outcome⟩ | ⟨_, _, cases⟩
  · rw [outcome] at refused
    cases refused
    exact ⟨_, _, rfl⟩
  · rcases cases with ⟨_, outcome⟩ | ⟨_, _, outcome⟩ | ⟨_, outcome⟩
    · rw [outcome] at refused
      cases refused
      exact ⟨_, "", String.append_empty.symm⟩
    · rw [outcome] at refused
      cases refused
    · rw [outcome] at refused
      cases refused
      exact ⟨_, _, rfl⟩

/-- Exactly the texts that denote an amount are read, as that amount. All others are refused by what
they denote, with a message that shows the text, and what was read is read again as it is. -/
theorem ofValue_text (text : String) :
    (∀ amount : UInt64,
      ofValue (.text text) = .ok amount ↔ Numeral.Denotes text amount.toNat) ∧
    (ofValue (.text text) = .error (.negative (.text text)) ↔
      ∃ number, Numeral.Denotes text number ∧ number < 0) ∧
    (ofValue (.text text) = .error (.tooLarge (.text text)) ↔
      ∃ number, Numeral.Denotes text number ∧ (UInt64.size : Int) ≤ number) ∧
    (ofValue (.text text) = .error (.notNumeral text) ↔
      ¬∃ number, Numeral.Denotes text number) ∧
    (∀ fault, ofValue (.text text) = .error fault →
      ∃ before after, fault.message = before ++ text ++ after) ∧
    ∀ amount, ofValue (.text text) = .ok amount →
      ofValue (.whole amount.toNat) = .ok amount ∧
        ofValue (.text (Numeral.write amount.toNat)) = .ok amount := by
  have shows : ∀ fault, ofValue (.text text) = .error fault →
      ∃ before after, fault.message = before ++ text ++ after := by
    intro fault refused
    exact message_shows_text refused
  have rereads : ∀ amount, ofValue (.text text) = .ok amount →
      ofValue (.whole amount.toNat) = .ok amount ∧
        ofValue (.text (Numeral.write amount.toNat)) = .ok amount := by
    intro amount _
    exact ⟨ofInt_amount _ amount, ofValue_write amount⟩
  rcases ofValue_text_cases text with ⟨absent, outcome⟩ | ⟨number, unique, cases⟩
  · refine ⟨?_, ?_, ?_, ?_, shows, rereads⟩
    · intro amount
      have notDenoted : ¬Numeral.Denotes text amount.toNat := by
        intro denotes
        exact absent ⟨_, denotes⟩
      simp [outcome, notDenoted]
    · simp only [outcome, Except.error.injEq, reduceCtorEq, false_iff]
      rintro ⟨number, denotes, _⟩
      exact absent ⟨number, denotes⟩
    · simp only [outcome, Except.error.injEq, reduceCtorEq, false_iff]
      rintro ⟨number, denotes, _⟩
      exact absent ⟨number, denotes⟩
    · simp only [outcome, true_iff]
      exact absent
  · simp only [unique, exists_eq_left, exists_eq, not_true_eq_false, iff_false]
    rcases cases with ⟨negative, outcome⟩ | ⟨found, rfl, outcome⟩ | ⟨above, outcome⟩
    · refine ⟨?_, ?_, ?_, ?_, shows, rereads⟩
      · intro amount
        simp only [outcome, reduceCtorEq, false_iff]
        omega
      · simp only [outcome, negative]
      · simp only [outcome, Except.error.injEq, reduceCtorEq, false_iff]
        omega
      · simp only [outcome, Except.error.injEq, reduceCtorEq, not_false_iff]
    · have below : found.toNat < UInt64.size := found.toNat_lt
      refine ⟨?_, ?_, ?_, ?_, shows, rereads⟩
      · intro amount
        simp only [outcome, Except.ok.injEq, Int.natCast_inj, UInt64.toNat_inj]
        exact eq_comm
      · simp only [outcome, reduceCtorEq, false_iff]
        omega
      · simp only [outcome, reduceCtorEq, false_iff]
        omega
      · simp only [outcome, reduceCtorEq, not_false_iff]
    · refine ⟨?_, ?_, ?_, ?_, shows, rereads⟩
      · intro amount
        have below : amount.toNat < UInt64.size := amount.toNat_lt
        simp only [outcome, reduceCtorEq, false_iff]
        omega
      · simp only [outcome, Except.error.injEq, reduceCtorEq, false_iff]
        omega
      · simp only [outcome, above]
      · simp only [outcome, Except.error.injEq, reduceCtorEq, not_false_iff]

end PoolFees.Amount
