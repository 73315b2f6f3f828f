import Mathlib.Algebra.Group.Int.Defs
import PoolFees.Proofs.Session.Evaluation
import PoolFees.Proofs.Word.Refusal

/-!
# Words in a session

Operations on words only ever lead to words that fit their widths, whatever widths and operands they
are given and in whatever order they are requested. `Request.OnWords` has these requests, and
`Session.HoldsWords` is what each of them preserves: the results so far are words or absent, and
nothing was moved into the store.

So every word that an argument or a result holds is proper. The checks that an operation makes on
its own result can then not fail, and what is refused is an operand or a width.
-/

namespace PoolFees

/-- No word in a value is loose, and there is memory for each of them. Only values that requests on
words can have as arguments are proper. -/
inductive Value.IsProper (memory : Memory) : Value → Prop where
  | absent : IsProper memory absent
  | truth (flag : Bool) : IsProper memory (truth flag)
  | whole (number : Int) : IsProper memory (whole number)
  | real (number : Binary64) (origin : Origin) : IsProper memory (real number origin)
  | text (content : String) : IsProper memory (text content)
  | bytes (content : List UInt8) : IsProper memory (bytes content)
  | word {bound : Word} (held : memory.Holds bound.width) (origin : Origin) :
      IsProper memory (word bound origin)
  | capability (operations : List String) (origin : Origin) :
      IsProper memory (capability operations origin)
  | list {items : List Value} (proper : ∀ item ∈ items, IsProper memory item) (origin : Origin) :
      IsProper memory (list items origin)
  | record {entries : List (String × Value)} (proper : ∀ entry ∈ entries, IsProper memory entry.2)
      (origin : Origin) : IsProper memory (record entries origin)
  | calculator {answers : FeeOperation → Value}
      (proper : ∀ operation, IsProper memory (answers operation)) (origin : Origin) :
      IsProper memory (calculator answers origin)

/-- An argument that is written as an integer. -/
inductive Argument.IsInteger : Argument → Prop where
  | whole (number : Int) : IsInteger (whole number)
  | numeral (text : String) : IsInteger (numeral text)

/-- The widths of all words in an argument are written as integers, of any sign and size. -/
inductive Argument.HasIntegerWidths : Argument → Prop where
  | absent : HasIntegerWidths absent
  | truth (flag : Bool) : HasIntegerWidths (truth flag)
  | whole (number : Int) : HasIntegerWidths (whole number)
  | numeral (text : String) : HasIntegerWidths (numeral text)
  | real (text : String) : HasIntegerWidths (real text)
  | text (content : String) : HasIntegerWidths (text content)
  | bytes (digits : String) : HasIntegerWidths (bytes digits)
  | capability (operations : List String) : HasIntegerWidths (capability operations)
  | register (position : Nat) : HasIntegerWidths (register position)
  | list {items : List Argument} (widths : ∀ item ∈ items, HasIntegerWidths item) :
      HasIntegerWidths (list items)
  | record {entries : List (String × Argument)}
      (widths : ∀ entry ∈ entries, HasIntegerWidths entry.2) : HasIntegerWidths (record entries)
  | calculator {answers : List (String × Argument)}
      (widths : ∀ entry ∈ answers, HasIntegerWidths entry.2) : HasIntegerWidths (calculator answers)
  | word {value width : Argument} (widths : HasIntegerWidths value) (isInteger : width.IsInteger) :
      HasIntegerWidths (word value width)

namespace WordOperation

/-- Whether the result of an operation is a word, if there is one. -/
def makesWord : WordOperation → Bool
  | bind | bindByte | bindAmount | combine _ | widen | narrow | narrowToAmount => true
  | _ => false

/-- Whether the second argument of an operation is a width. -/
def takesWidth : WordOperation → Bool
  | bind | widen | narrow => true
  | _ => false

end WordOperation

/-- A request that makes a word or works on words, with integers for all widths. -/
structure Request.OnWords (request : Request) : Prop where
  makesWord : ∃ operation, request.operation = .word operation ∧ operation.makesWord = true ∧
    (operation.takesWidth = true → ∀ width ∈ request.arguments[1]?, width.IsInteger)
  widths : ∀ argument ∈ request.arguments, argument.HasIntegerWidths

/-- A value is absent or a word for which there is memory. -/
inductive Value.IsWordAtMost (memory : Memory) : Value → Prop where
  | absent : IsWordAtMost memory absent
  | word {bound : Word} (held : memory.Holds bound.width) (origin : Origin) :
      IsWordAtMost memory (word bound origin)

namespace Value

variable {memory : Memory} {store : Store} {value : Value}

theorem IsWordAtMost.isProper (isWord : value.IsWordAtMost memory) : value.IsProper memory := by
  cases isWord with
  | absent => exact .absent
  | word held origin => exact .word held origin

/-- Giving a word another origin leaves the word as it is. -/
theorem IsWordAtMost.withOrigin (isWord : value.IsWordAtMost memory) (origin : Origin) :
    (value.withOrigin origin).IsWordAtMost memory := by
  cases isWord with
  | absent => exact .absent
  | word held made =>
      cases made with
      | nil => exact .word held origin
      | cons => exact .word held _

theorem IsWordAtMost.madeAt (isWord : value.IsWordAtMost memory) (origin : Origin) :
    (value.madeAt origin).IsWordAtMost memory := by
  have isMade : value.madeAt origin = value.withOrigin origin := by
    cases isWord <;> rfl
  rw [isMade]
  exact isWord.withOrigin origin

theorem IsWordAtMost.ofOption {result : Option Word}
    (held : ∀ word, result = some word → memory.Holds word.width) :
    (Value.ofOption .ofWord result).IsWordAtMost memory := by
  cases result with
  | none => exact .absent
  | some word => exact .word (held word rfl) []

namespace IsProper

theorem isLoose_eq (proper : value.IsProper memory) : value.isLoose = false := by
  cases proper <;> rfl

theorem eq_word (proper : value.IsProper memory) {parts : LooseWord}
    (found : store.word? value = some parts) :
    ∃ bound origin, value = .word bound origin ∧ parts = .ofWord bound ∧
      memory.Holds bound.width := by
  cases proper with
  | @word bound held origin =>
      cases found
      exact ⟨bound, origin, rfl, rfl, held⟩
  | _ => cases found

end IsProper

end Value

/-- What is bound to an integer as its width is a word for which there is memory. -/
theorem Store.isWord_of_bindWord {store : Store} {value result : Value} {bits : Int}
    (proper : value.isLoose = false) (binds : store.bindWord (.whole bits) value = .ok result) :
    result.IsWordAtMost store.memory := by
  simp only [Store.bindWord, proper, Except.map_eq_ok_iff] at binds
  rcases binds with ⟨bound, bound_eq, rfl⟩
  rcases Except.bind_eq_ok_iff.1 bound_eq with ⟨number, _, read⟩
  exact .word (Word.ofInt_eq_ok read).2.2 []

namespace Session

variable {memory : Memory} {session : Session}

/-- What the session holds after requests on words. -/
structure HoldsWords (memory : Memory) (session : Session) : Prop where
  registers : ∀ value ∈ session.registers, value.IsWordAtMost memory
  store : session.store = .empty memory

theorem HoldsWords.memory_eq (holds : session.HoldsWords memory) :
    session.store.memory = memory := by
  rw [holds.store]
  rfl

theorem HoldsWords.register (holds : session.HoldsWords memory) (position : Nat) :
    (session.register position).IsProper memory := by
  rw [Session.register]
  cases found : session.registers[position]? with
  | none => exact .absent
  | some value => exact (holds.registers value (List.mem_of_getElem? found)).isProper

theorem evaluate_isInteger {argument : Argument} (isInteger : argument.IsInteger) {origin : Origin}
    {value : Value} (evaluates : session.evaluate origin argument = .ok value) :
    ∃ bits, value = .whole bits := by
  cases isInteger with
  | whole number =>
      cases evaluates
      exact ⟨number, rfl⟩
  | numeral text =>
      rw [evaluate, Except.map_eq_ok_iff] at evaluates
      rcases evaluates with ⟨bits, _, rfl⟩
      exact ⟨bits, rfl⟩

/-- Only proper values come from arguments whose words have integers for their widths. -/
theorem HoldsWords.evaluate (holds : session.HoldsWords memory) {argument : Argument}
    (widths : argument.HasIntegerWidths) {origin : Origin} {value : Value}
    (evaluates : session.evaluate origin argument = .ok value) : value.IsProper memory := by
  -- By induction over the nesting of the argument; words come in where one is bound, and where a
  -- register is read.
  induction widths generalizing origin value with
  | absent =>
      cases evaluates
      exact .absent
  | truth flag =>
      cases evaluates
      exact .truth flag
  | whole number =>
      cases evaluates
      exact .whole number
  | numeral text =>
      rcases evaluate_isInteger (.numeral text) evaluates with ⟨bits, rfl⟩
      exact .whole bits
  | real text =>
      rw [Session.evaluate, Except.map_eq_ok_iff] at evaluates
      rcases evaluates with ⟨number, _, rfl⟩
      exact .real number origin
  | text content =>
      cases evaluates
      exact .text content
  | bytes digits =>
      rw [Session.evaluate, Except.map_eq_ok_iff] at evaluates
      rcases evaluates with ⟨content, _, rfl⟩
      exact .bytes content
  | capability operations =>
      cases evaluates
      exact .capability operations origin
  | register position =>
      cases evaluates
      exact holds.register position
  | list _ ih =>
      rw [Session.evaluate, Except.map_eq_ok_iff] at evaluates
      rcases evaluates with ⟨values, valuesEvaluate, rfl⟩
      refine .list (forall_of_evaluateAll ?_ valuesEvaluate) origin
      intro item member itemOrigin value itemEvaluates
      exact ih item member itemEvaluates
  | record _ ih =>
      rw [Session.evaluate, Except.map_eq_ok_iff] at evaluates
      rcases evaluates with ⟨values, valuesEvaluate, rfl⟩
      refine .record (forall_of_evaluateEntries ?_ valuesEvaluate) origin
      intro entry member entryOrigin value entryEvaluates
      exact ih entry member entryEvaluates
  | calculator _ ih =>
      rw [Session.evaluate, Except.bind_eq_ok_iff] at evaluates
      rcases evaluates with ⟨answers, answersEvaluate, same⟩
      cases same
      have proper : ∀ entry ∈ answers, entry.2.IsProper memory := by
        refine forall_of_evaluateEntries ?_ answersEvaluate
        intro entry member entryOrigin value entryEvaluates
        exact ih entry member entryEvaluates
      refine .calculator ?_ origin
      intro operation
      cases found : answers.lookup operation.name with
      | none => exact .absent
      | some value => exact proper _ (Entries.mem_of_lookup found)
  | word _ isInteger ih =>
      rw [Session.evaluate, Except.bind_eq_ok_iff] at evaluates
      rcases evaluates with ⟨content, contentEvaluates, evaluates⟩
      rw [Except.bind_eq_ok_iff] at evaluates
      rcases evaluates with ⟨width, widthEvaluates, evaluates⟩
      rcases evaluate_isInteger isInteger widthEvaluates with ⟨bits, rfl⟩
      rw [Except.map_eq_ok_iff] at evaluates
      rcases evaluates with ⟨result, binds, rfl⟩
      have isWord := Store.isWord_of_bindWord (ih contentEvaluates).isLoose_eq binds
      rw [holds.memory_eq] at isWord
      exact (isWord.withOrigin origin).isProper

end Session

namespace WordOperation

variable {memory : Memory} {store : Store} {operation : WordOperation}
  {arguments operands : List Value} {value receiver : Value} {bound : Word} {origin : Origin}

/-- Combining keeps the width of a word, and what is moved to a width that has to be read is moved
to one for which there is memory. -/
theorem isWord_of_performOn (held : memory.Holds bound.width) (makes : operation.makesWord = true)
    (performs : operation.performOn memory bound operands = .ok value) :
    value.IsWordAtMost memory := by
  unfold performOn at performs
  split at performs
  case h_1 arithmetic operand =>
    rcases Except.map_eq_ok_iff.1 performs with ⟨result, combined, rfl⟩
    rcases Except.map_eq_ok_iff.1 combined with ⟨number, _, rfl⟩
    apply Value.IsWordAtMost.ofOption
    intro word present
    rwa [Word.width_of_calculate? present]
  case h_2 bits =>
    rcases Except.map_eq_ok_iff.1 performs with ⟨wide, widens, rfl⟩
    unfold Word.widen at widens
    split at widens
    · cases widens
    · exact .word (Word.ofInt_eq_ok widens).2.2 []
  case h_3 bits =>
    rcases Except.map_eq_ok_iff.1 performs with ⟨result, narrows, rfl⟩
    rcases Except.map_eq_ok_iff.1 narrows with ⟨width, read, rfl⟩
    apply Value.IsWordAtMost.ofOption
    intro word present
    rw [(Word.ofNat?_eq_some present).1]
    exact (Width.ofInt_eq_ok read).2
  case h_4 =>
    cases performs
    apply Value.IsWordAtMost.ofOption
    intro word present
    rw [(Word.ofNat?_eq_some present).1]
    exact memory.holds_of_le (by decide)
  case h_9 => cases performs
  all_goals simp [makesWord] at makes

/-- With operands that are not loose and an integer for a width, an operation looks at a word as it
is. -/
theorem performWith_word (makes : operation.makesWord = true)
    (proper : ∀ operand ∈ operands, operand.isLoose = false)
    (isWhole : operation.takesWidth = true → ∀ width ∈ operands[0]?, ∃ bits, width = .whole bits) :
    operation.performWith store (.word bound origin) operands =
      operation.performOn store.memory bound operands := by
  have notLoose : operands.any Value.isLoose = false := by
    rw [List.any_eq_false]
    intro operand member
    rw [proper operand member]
    exact Bool.false_ne_true
  cases operation with
  | widen | narrow =>
      cases operands with
      | nil => rfl
      | cons first rest =>
          cases rest with
          | nil =>
              rcases isWhole rfl first rfl with ⟨bits, rfl⟩
              rfl
          | cons second others =>
              simp [performWith, Store.word?, isComparison, notLoose, widthIsWhole, performLoose,
                performOn]
  | bind | bindByte | bindAmount | combine _ | narrowToAmount =>
      simp [performWith, Store.word?, isComparison, notLoose, widthIsWhole]
  | _ => simp [makesWord] at makes

theorem isWord_of_perform (makes : operation.makesWord = true)
    (proper : ∀ argument ∈ arguments, argument.IsProper store.memory)
    (isWhole : operation.takesWidth = true → ∀ width ∈ arguments[1]?, ∃ bits, width = .whole bits)
    (performs : operation.perform store arguments = .ok value) :
    value.IsWordAtMost store.memory := by
  have notLoose : ∀ argument ∈ arguments, argument.isLoose = false :=
    fun argument member => (proper argument member).isLoose_eq
  unfold perform at performs
  split at performs
  case h_1 operand | h_3 operand | h_4 operand =>
    exact Store.isWord_of_bindWord (notLoose operand List.mem_cons_self) performs
  case h_2 operand bits =>
    rcases isWhole rfl bits rfl with ⟨bits, rfl⟩
    exact Store.isWord_of_bindWord (notLoose operand List.mem_cons_self) performs
  case h_5 => cases makes
  -- What is left has a receiver, which is a word because all arguments are proper.
  case h_6 receiver operands _ _ _ _ _ =>
    rw [List.forall_mem_cons] at notLoose
    cases found : store.word? receiver with
    | none =>
        simp only [performWith, found] at performs
        cases performs
    | some parts =>
        rcases (proper receiver List.mem_cons_self).eq_word found with ⟨bound, origin, rfl, _, held⟩
        rw [performWith_word makes notLoose.2 isWhole] at performs
        exact isWord_of_performOn held makes performs
  case h_7 => cases performs

end WordOperation

namespace Effect

variable {effect : Effect} {value : Value}

theorem answered_store (effect : Effect) : effect.answered.store = effect.store := by
  unfold answered
  split <;> rfl

theorem answered_moved (effect : Effect) : effect.answered.moved = effect.moved := by
  unfold answered
  split <;> rfl

/-- An answer shows the result of its effect, unless it shows none. -/
theorem result_of_answered (shows : effect.answered.outcome.result = .ok value) :
    effect.outcome.result = .ok value := by
  unfold answered at shows
  split at shows
  · cases shows
  · exact shows

end Effect

namespace Session

variable {memory : Memory} {session : Session} {request : Request}

/-- The arguments of a request on words, once they are evaluated. -/
theorem HoldsWords.evaluateAll (holds : session.HoldsWords memory) (onWords : request.OnWords)
    {origin : Origin} {arguments : List Value}
    (evaluates : session.evaluateAll origin 0 request.arguments = .ok arguments) :
    ∀ argument ∈ arguments, argument.IsProper memory := by
  refine forall_of_evaluateAll ?_ evaluates
  intro argument member argumentOrigin value argumentEvaluates
  exact holds.evaluate (onWords.widths argument member) argumentEvaluates

/-- The results of requests on words are words. -/
theorem HoldsWords.perform (holds : session.HoldsWords memory) (onWords : request.OnWords)
    {origin : Origin} {arguments : List Value}
    (evaluates : session.evaluateAll origin 0 request.arguments = .ok arguments) :
    ∃ result, request.operation.perform session.store arguments = .answer (.empty memory) result ∧
      ∀ value, result = .ok value → value.IsWordAtMost memory := by
  rcases onWords.makesWord with ⟨operation, operation_eq, makes, isInteger⟩
  refine ⟨operation.perform session.store arguments, ?_, ?_⟩
  · rw [operation_eq, ← holds.store]
    rfl
  · intro value performs
    have proper := holds.evaluateAll onWords evaluates
    rw [← holds.memory_eq] at proper ⊢
    refine WordOperation.isWord_of_perform makes proper ?_ performs
    intro takesWidth width found
    rcases evaluates_getElem? evaluates found with ⟨item, itemFound, itemEvaluates⟩
    exact evaluate_isInteger (isInteger takesWidth item itemFound) itemEvaluates

theorem HoldsWords.effect (holds : session.HoldsWords memory) (onWords : request.OnWords) :
    (session.effect request).store = .empty memory ∧ (session.effect request).moved = none ∧
      ∀ value, (session.effect request).outcome.result = .ok value →
        value.IsWordAtMost memory := by
  rw [Session.effect]
  split
  · rename_i arguments evaluates
    rcases holds.perform onWords evaluates with ⟨result, performs, isWord⟩
    rw [performs, Effect.answered_store, Effect.answered_moved]
    refine ⟨rfl, rfl, ?_⟩
    intro value shows
    rcases Except.map_eq_ok_iff.1 (Effect.result_of_answered shows) with ⟨made, made_eq, rfl⟩
    exact (isWord made made_eq).madeAt _
  · refine ⟨holds.store, rfl, ?_⟩
    intro value shows
    cases shows

/-- A request on words leaves only words and absent results behind. -/
theorem HoldsWords.after (holds : session.HoldsWords memory) (onWords : request.OnWords) :
    (session.after request).HoldsWords memory := by
  rcases holds.effect onWords with ⟨store_eq, moved_eq, isWord⟩
  constructor
  -- Nothing is moved, so the earlier results are not replaced.
  · intro value member
    simp only [Session.after, registersAfter, moved_eq, List.mem_append,
      List.mem_singleton] at member
    rcases member with member | rfl
    · exact holds.registers value member
    · split
      · rename_i value shows
        exact isWord value shows
      · exact .absent
  · exact store_eq

theorem HoldsWords.run (holds : session.HoldsWords memory) {requests : List Request}
    (onWords : ∀ request ∈ requests, request.OnWords) :
    (session.run requests).HoldsWords memory := by
  induction requests generalizing session with
  | nil => exact holds
  | cons request rest ih =>
      rw [List.forall_mem_cons] at onWords
      exact ih (holds.after onWords.1) onWords.2

theorem start_holdsWords (memory : Memory) : (start memory).HoldsWords memory := by
  refine ⟨?_, rfl⟩
  intro value member
  cases member

/-- After any requests on words, every word that an argument stands for or that a request has as its
result is a number within the width of the word, and there is memory for it. So whatever is
requested of it, only operands and widths are refused. -/
theorem words_of_run (memory : Memory) {requests : List Request}
    (onWords : ∀ request ∈ requests, request.OnWords) :
    let session := (start memory).run requests
    (∀ argument origin value, argument.HasIntegerWidths →
      session.evaluate origin argument = .ok value → value.IsProper memory) ∧
    (∀ (request : Request) arguments value, request.OnWords →
      session.evaluateAll [session.registers.length] 0 request.arguments = .ok arguments →
      (request.operation.perform session.store arguments).outcome.result = .ok value →
      value.IsProper memory) ∧
    ∀ (value : Value) parts, value.IsProper memory → session.store.word? value = some parts →
      (∃ bits number : Int, parts = ⟨.whole number, .whole bits⟩ ∧ 0 ≤ bits ∧ 0 ≤ number ∧
        number ≤ 2 ^ bits.toNat - 1) ∧
      ∃ receiver origin, value = .word receiver origin ∧ memory.Holds receiver.width ∧
        receiver.RefusesOnlyArguments session.store origin := by
  intro session
  have holds : session.HoldsWords memory := (start_holdsWords memory).run onWords
  refine ⟨?_, ?_, ?_⟩
  · intro argument origin value widths evaluates
    exact holds.evaluate widths evaluates
  · intro request arguments value onWords evaluates performs
    rcases holds.perform onWords evaluates with ⟨result, performs_eq, isWord⟩
    rw [performs_eq] at performs
    exact (isWord value performs).isProper
  · intro value parts proper found
    rcases proper.eq_word found with ⟨receiver, origin, rfl, rfl, held⟩
    have storeHeld : session.store.memory.Holds receiver.width := by
      rw [holds.memory_eq]
      exact held
    refine ⟨⟨receiver.width.bits, receiver.value, rfl, by omega, by omega, ?_⟩, receiver, origin,
      rfl, held, Word.refusesOnlyArguments storeHeld origin⟩
    have fits : receiver.value < 2 ^ receiver.width.bits := receiver.fits
    have cast_pow : ((2 ^ receiver.width.bits : Nat) : Int) = 2 ^ receiver.width.bits :=
      Int.natCast_pow 2 receiver.width.bits
    rw [Int.toNat_natCast, ← cast_pow]
    omega

/-- The number 200 cannot be doubled within eight bits, but it is widened to sixteen. -/
theorem words_of_run_widened :
    let requests : List Request := [⟨.word .bind, [.numeral "200", .whole 8]⟩,
      ⟨.word (.combine .mul), [.register 0, .whole 2]⟩,
      ⟨.word .widen, [.register 0, .numeral "16"]⟩]
    let session := (start .usual).run requests
    (∀ request ∈ requests, request.OnWords) ∧
      session.registers.map Value.typeName = ["CheckedUint", "NoneType", "CheckedUint"] ∧
      ∃ receiver origin, session.register 2 = .word receiver origin ∧
        receiver.RefusesOnlyArguments session.store origin := by
  intro requests session
  have onWords : ∀ request ∈ requests, request.OnWords := by
    simp only [requests, List.forall_mem_cons]
    refine ⟨?_, ?_, ?_, fun _ member => nomatch member⟩
    · refine ⟨⟨_, rfl, rfl, ?_⟩, ?_⟩
      · rintro _ _ ⟨⟩
        exact .whole 8
      · simp only [List.forall_mem_cons]
        exact ⟨.numeral "200", .whole 8, fun _ member => nomatch member⟩
    · refine ⟨⟨_, rfl, rfl, fun takesWidth => nomatch takesWidth⟩, ?_⟩
      simp only [List.forall_mem_cons]
      exact ⟨.register 0, .whole 2, fun _ member => nomatch member⟩
    · refine ⟨⟨_, rfl, rfl, ?_⟩, ?_⟩
      · rintro _ _ ⟨⟩
        exact .numeral "16"
      · simp only [List.forall_mem_cons]
        exact ⟨.register 0, .numeral "16", fun _ member => nomatch member⟩
  have isWord : (session.store.word? (session.register 2)).isSome = true := by decide +kernel
  rcases words_of_run .usual onWords with ⟨evaluated, _, refuses⟩
  rcases Option.isSome_iff_exists.1 isWord with ⟨parts, found⟩
  refine ⟨onWords, by decide +kernel, ?_⟩
  rcases (refuses _ parts (evaluated (.register 2) [] _ (.register 2) rfl) found).2 with
    ⟨receiver, origin, receiver_eq, _, refusesOnly⟩
  exact ⟨receiver, origin, receiver_eq, refusesOnly⟩

/-- Whatever memory there is, a width that is neither negative nor narrower is still refused when it
is too large for numbers to have. -/
theorem words_refuse_large_width :
    let one : Value := .word ⟨⟨8, by decide⟩, 1, by decide⟩ []
    ¬(69175290276410818321 : Int) < 8 ∧ ∀ memory,
      WordOperation.perform (.empty memory) .bindByte [.whole 1] = .ok one ∧
      WordOperation.perform (.empty memory) .widen [one, .whole 69175290276410818321] =
        refuse .widthTooLarge ∧
      WordOperation.perform (.empty memory) .narrow [one, .whole 69175290276410818321] =
        refuse .widthTooLarge := by
  intro one
  refine ⟨by decide, fun memory => ⟨?_, rfl, rfl⟩⟩
  have byteHeld : memory.Holds Pool.sizeWidth := memory.holds_of_le (by decide)
  have performs : WordOperation.perform (.empty memory) .bindByte [.whole 1] =
      (Word.ofValue memory Pool.sizeWidth.bits (.whole 1)).map .ofWord := rfl
  rw [performs, Word.ofValue_of_holds byteHeld]
  rfl

end Session

end PoolFees
