import PoolFees.Proofs.Operation.Known
import PoolFees.Session

/-!
# Evaluating arguments

An argument is evaluated part by part, and each part that is new is made at its own place within the
origin of the argument. `Session.madeFrom` has these parts by their paths. Apart from them the value
of an argument only holds what the session held before, so it is known as far as the session and the
new parts are.
-/

namespace PoolFees

namespace Argument

/-- The arguments that an argument is made of. -/
def parts : Argument → List Argument
  | list items => items
  | record entries | calculator entries => entries.map Prod.snd
  | word value width => [value, width]
  | _ => []

/-- What a path of positions leads to. -/
def part? : List Nat → Argument → Option Argument
  | [], argument => some argument
  | position :: path, argument => argument.parts[position]?.bind (part? path)

theorem sizeOf_lt_of_mem_parts {argument part : Argument} (member : part ∈ argument.parts) :
    sizeOf part < sizeOf argument := by
  have ofEntries {entries : List (String × Argument)} (member : part ∈ entries.map Prod.snd) :
      sizeOf part < sizeOf entries := by
    rcases List.mem_map.1 member with ⟨⟨key, value⟩, entryMember, rfl⟩
    have smaller := List.sizeOf_lt_of_mem entryMember
    rw [Prod.mk.sizeOf_spec] at smaller
    change sizeOf value < sizeOf entries
    omega
  cases argument with
  | list items =>
      have smaller : sizeOf part < sizeOf items := List.sizeOf_lt_of_mem member
      rw [list.sizeOf_spec]
      omega
  | record entries =>
      have smaller := ofEntries member
      rw [record.sizeOf_spec]
      omega
  | calculator entries =>
      have smaller := ofEntries member
      rw [calculator.sizeOf_spec]
      omega
  | word value width =>
      rw [word.sizeOf_spec]
      rcases List.mem_cons.1 member with rfl | member
      · omega
      · obtain rfl := List.mem_singleton.1 member
        omega
  | _ => cases member

end Argument

namespace Session

variable {session : Session} {known : Identity → Value → Prop} {origin : Origin} {position : Nat}

section Lists

variable {items : List Argument} {entries : List (String × Argument)} {values : List Value}

/-- The value at a position is that of the argument there, made at this position. -/
theorem evaluates_getElem? {index : Nat} {value : Value}
    (evaluates : session.evaluateAll origin position items = .ok values)
    (found : values[index]? = some value) :
    ∃ item ∈ items[index]?, session.evaluate (origin ++ [position + index]) item = .ok value := by
  induction items generalizing position index values with
  | nil =>
      cases evaluates
      cases found
  | cons item rest ih =>
      rw [evaluateAll, Except.bind_eq_ok_iff] at evaluates
      rcases evaluates with ⟨first, firstEvaluates, evaluates⟩
      rw [Except.bind_eq_ok_iff] at evaluates
      rcases evaluates with ⟨others, othersEvaluate, same⟩
      cases same
      cases index with
      | zero =>
          cases found
          exact ⟨item, rfl, firstEvaluates⟩
      | succ index =>
          rw [← Nat.add_assoc, Nat.add_right_comm]
          exact ih othersEvaluate found

theorem length_of_evaluateAll (evaluates : session.evaluateAll origin position items = .ok values) :
    values.length = items.length := by
  induction items generalizing position values with
  | nil =>
      cases evaluates
      rfl
  | cons item rest ih =>
      rw [evaluateAll, Except.bind_eq_ok_iff] at evaluates
      rcases evaluates with ⟨first, _, evaluates⟩
      rw [Except.bind_eq_ok_iff] at evaluates
      rcases evaluates with ⟨others, othersEvaluate, same⟩
      cases same
      rw [List.length_cons, List.length_cons, ih othersEvaluate]

/-- Entries are evaluated like the list of what is under their keys. -/
theorem evaluateAll_of_evaluateEntries {results : List (String × Value)}
    (evaluates : session.evaluateEntries origin position entries = .ok results) :
    session.evaluateAll origin position (entries.map Prod.snd) = .ok (results.map Prod.snd) := by
  induction entries generalizing position results with
  | nil =>
      cases evaluates
      rfl
  | cons entry rest ih =>
      rcases entry with ⟨key, argument⟩
      rw [evaluateEntries, Except.bind_eq_ok_iff] at evaluates
      rcases evaluates with ⟨first, firstEvaluates, evaluates⟩
      rw [Except.bind_eq_ok_iff] at evaluates
      rcases evaluates with ⟨others, othersEvaluate, same⟩
      cases same
      rw [List.map_cons, evaluateAll, firstEvaluates, ih othersEvaluate]
      rfl

theorem forall_of_evaluateAll {P : Value → Prop}
    (each : ∀ item ∈ items, ∀ origin value, session.evaluate origin item = .ok value → P value)
    (evaluates : session.evaluateAll origin position items = .ok values) :
    ∀ value ∈ values, P value := by
  intro value member
  rcases List.getElem?_of_mem member with ⟨index, found⟩
  rcases evaluates_getElem? evaluates found with ⟨item, itemFound, itemEvaluates⟩
  exact each item (List.mem_of_getElem? itemFound) _ value itemEvaluates

theorem forall_of_evaluateEntries {P : Value → Prop}
    (each : ∀ entry ∈ entries, ∀ origin value,
      session.evaluate origin entry.2 = .ok value → P value)
    {results : List (String × Value)}
    (evaluates : session.evaluateEntries origin position entries = .ok results) :
    ∀ entry ∈ results, P entry.2 :=
  List.forall_mem_map.1 <|
    forall_of_evaluateAll (List.forall_mem_map.2 each) (evaluateAll_of_evaluateEntries evaluates)

end Lists

/-- All results of a session and all values in its store are known. -/
structure Knows (session : Session) (known : Identity → Value → Prop) : Prop where
  registers : ∀ value ∈ session.registers, value.IsKnown known
  store : session.store.IsKnown known

theorem Knows.mono {all : Identity → Value → Prop} (knows : session.Knows known)
    (implies : ∀ identity value, known identity value → all identity value) :
    session.Knows all :=
  ⟨fun value member => (knows.registers value member).mono implies, knows.store.mono implies⟩

theorem Knows.register (knows : session.Knows known) (position : Nat) :
    (session.register position).IsKnown known := by
  rw [Session.register]
  cases found : session.registers[position]? with
  | none => exact .plain rfl rfl
  | some value => exact knows.registers value (List.mem_of_getElem? found)

/-- What the parts of an argument that is made at an origin are evaluated to, by their paths. -/
def madeFrom (session : Session) (origin : Origin) (argument : Argument) (path : List Nat) :
    Option Value :=
  (argument.part? path).bind fun part => (session.evaluate (origin ++ path) part).toOption

variable {argument : Argument} {value : Value}

theorem madeFrom_nil (evaluates : session.evaluate origin argument = .ok value) :
    session.madeFrom origin argument [] = some value := by
  rw [madeFrom, List.append_nil, Argument.part?, Option.bind_some, evaluates]
  rfl

theorem madeFrom_cons {part : Argument} (isPart : argument.parts[position]? = some part)
    (path : List Nat) : session.madeFrom origin argument (position :: path) =
      session.madeFrom (origin ++ [position]) part path := by
  rw [madeFrom, madeFrom, Argument.part?, isPart, Option.bind_some, List.append_assoc,
    List.singleton_append]

/-- What is made for a part is made for the whole. -/
theorem isKnown_of_part {part : Argument} (isPart : argument.parts[position]? = some part)
    (isKnown : value.IsKnown (Identity.KnownOrMade known (origin ++ [position])
      (session.madeFrom (origin ++ [position]) part))) :
    value.IsKnown (Identity.KnownOrMade known origin (session.madeFrom origin argument)) := by
  refine isKnown.mono ?_
  intro identity other holds
  refine @Identity.KnownOrMade.within _ _ position _ _ _ ?_
  simpa only [madeFrom_cons isPart] using holds

/-- The value of an argument is known, save for its new parts. -/
theorem Knows.evaluate (knows : session.Knows known) {origin : Origin} {argument : Argument}
    {value : Value} (evaluates : session.evaluate origin argument = .ok value) :
    value.IsKnown (Identity.KnownOrMade known origin (session.madeFrom origin argument)) := by
  have partKnown {position : Nat} {part : Argument} {result : Value}
      (isPart : argument.parts[position]? = some part)
      (partEvaluates : session.evaluate (origin ++ [position]) part = .ok result) :
      result.IsKnown (Identity.KnownOrMade known origin (session.madeFrom origin argument)) :=
    isKnown_of_part isPart (knows.evaluate partEvaluates)
  have partsKnown {values : List Value}
      (partsEvaluate : session.evaluateAll origin 0 argument.parts = .ok values) :
      ∀ result ∈ values,
        result.IsKnown (Identity.KnownOrMade known origin (session.madeFrom origin argument)) := by
    intro result member
    rcases List.getElem?_of_mem member with ⟨index, found⟩
    rcases evaluates_getElem? partsEvaluate found with ⟨part, isPart, partEvaluates⟩
    rw [Nat.zero_add] at partEvaluates
    exact partKnown isPart partEvaluates
  have isMade : session.madeFrom origin argument [] = some value := madeFrom_nil evaluates
  cases argument with
  | absent | truth | whole | text =>
      cases evaluates
      exact .plain rfl rfl
  | numeral | bytes =>
      rw [Session.evaluate, Except.map_eq_ok_iff] at evaluates
      rcases evaluates with ⟨content, _, rfl⟩
      exact .plain rfl rfl
  | real =>
      rw [Session.evaluate, Except.map_eq_ok_iff] at evaluates
      rcases evaluates with ⟨number, _, rfl⟩
      exact .intro (Value.IsKnown.here_of_made rfl isMade) fun part member => nomatch member
  | capability =>
      cases evaluates
      exact .intro (Value.IsKnown.here_of_made rfl isMade) fun part member => nomatch member
  | list items =>
      rw [Session.evaluate, Except.map_eq_ok_iff] at evaluates
      rcases evaluates with ⟨values, itemsEvaluate, rfl⟩
      exact .intro (Value.IsKnown.here_of_made rfl isMade) (partsKnown itemsEvaluate)
  | record entries =>
      rw [Session.evaluate, Except.map_eq_ok_iff] at evaluates
      rcases evaluates with ⟨results, entriesEvaluate, rfl⟩
      have resultsKnown := partsKnown (evaluateAll_of_evaluateEntries entriesEvaluate)
      exact .intro (Value.IsKnown.here_of_made rfl isMade) resultsKnown
  | calculator answers =>
      rw [Session.evaluate, Except.bind_eq_ok_iff] at evaluates
      rcases evaluates with ⟨results, answersEvaluate, same⟩
      cases same
      have resultsKnown := partsKnown (evaluateAll_of_evaluateEntries answersEvaluate)
      refine .intro (Value.IsKnown.here_of_made rfl isMade) ?_
      rw [Value.parts, List.forall_mem_map]
      intro operation _
      cases found : results.lookup operation.name with
      | none => exact .plain rfl rfl
      | some answer => exact Entries.IsKnown.lookup (List.forall_mem_map.1 resultsKnown) found
  | word content width =>
      rw [Session.evaluate, Except.bind_eq_ok_iff] at evaluates
      rcases evaluates with ⟨contentValue, contentEvaluates, evaluates⟩
      rw [Except.bind_eq_ok_iff] at evaluates
      rcases evaluates with ⟨widthValue, widthEvaluates, evaluates⟩
      rw [Except.map_eq_ok_iff] at evaluates
      rcases evaluates with ⟨result, binds, rfl⟩
      have isContent : (Argument.word content width).parts[0]? = some content := rfl
      have isWidth : (Argument.word content width).parts[1]? = some width := rfl
      have contentKnown := partKnown isContent contentEvaluates
      have widthKnown := partKnown isWidth widthEvaluates
      have resultKnown := Store.bindWord_isKnown (knows.store.mono fun _ _ => .inl) widthKnown
        contentKnown binds
      exact (resultKnown.withOrigin origin isMade).mono fun _ _ => .idem
  | register position =>
      cases evaluates
      exact (knows.register position).mono fun _ _ => .inl
termination_by sizeOf argument
decreasing_by exact Argument.sizeOf_lt_of_mem_parts (List.mem_of_getElem? isPart)

/-- The values of arguments are known, save for what is new in them. -/
theorem Knows.evaluateAll (knows : session.Knows known) {arguments : List Argument}
    {values : List Value}
    (evaluates : session.evaluateAll origin 0 arguments = .ok values) :
    ∀ value ∈ values, value.IsKnown
      (Identity.KnownOrMade known origin (session.madeFrom origin (.list arguments))) := by
  have listEvaluates : session.evaluate origin (.list arguments) = .ok (.list values origin) := by
    rw [Session.evaluate, evaluates]
    rfl
  exact (knows.evaluate listEvaluates).within

/-- What a request makes, by the paths within its origin: what is new in its arguments, and behind
them what is new in its result. -/
def madeBy (session : Session) (request : Request) (result : Value) (path : List Nat) :
    Option Value :=
  if path.head? = some request.arguments.length then result.part? path.tail
  else session.madeFrom [session.registers.length] (.list request.arguments) path

variable {request : Request}

theorem madeBy_of_madeFrom {path : List Nat}
    (isMade : session.madeFrom [session.registers.length] (.list request.arguments) path =
      some value) (result : Value) : session.madeBy request result path = some value := by
  rw [madeBy, if_neg, isMade]
  intro isResult
  rcases List.head?_eq_some_iff.1 isResult with ⟨rest, rfl⟩
  have noArgument : (Argument.list request.arguments).parts[request.arguments.length]? = none :=
    List.getElem?_eq_none (Nat.le_refl _)
  rw [madeFrom, Argument.part?, noArgument] at isMade
  cases isMade

/-- The result of a request is made behind its arguments. -/
theorem madeAt_isKnown (isKnown : value.IsKnown (Identity.KnownOrMade known
      [session.registers.length]
      (session.madeFrom [session.registers.length] (.list request.arguments)))) :
    let result := value.madeAt ([session.registers.length] ++ [request.arguments.length])
    result.IsKnown
      (Identity.KnownOrMade known [session.registers.length] (session.madeBy request result)) := by
  intro result
  refine (isKnown.madeAt _).mono ?_
  rintro identity other (isKnown | ⟨path, rfl, isPart⟩)
  · rcases isKnown with isKnown | ⟨path, rfl, isMade⟩
    · exact .inl isKnown
    · exact .inr ⟨path, rfl, madeBy_of_madeFrom isMade result⟩
  · refine .inr ⟨request.arguments.length :: path, rfl, ?_⟩
    rw [madeBy, List.head?_cons, if_pos rfl]
    exact isPart

theorem effect_of_evaluates {arguments : List Value}
    (evaluates : session.evaluateAll [session.registers.length] 0 request.arguments =
      .ok arguments) :
    session.effect request =
      ((request.operation.perform session.store arguments).madeAt
        ([session.registers.length] ++ [arguments.length])).answered := by
  simp only [effect, evaluates]

theorem effect_of_refused {fault : Fault}
    (evaluates : session.evaluateAll [session.registers.length] 0 request.arguments =
      .error fault) :
    session.effect request = .pure session.store (.silent (.error fault)) := by
  simp only [effect, evaluates]

end Session

end PoolFees
