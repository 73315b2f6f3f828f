import PoolFees.Binary64.Literal
import PoolFees.Operation.Perform
import PoolFees.Request

/-!
# Sessions

A session answers requests one after the other. It keeps the result of every request, so that later
requests can refer to it, and the store of what can change. A request is answered from its arguments
and the store alone.

The arguments are evaluated from left to right before the operation looks at them, and the first one
that is refused decides the answer. A request that is refused or has no result leaves an absent
value behind.
-/

namespace PoolFees

/-- The results of all requests so far and the store of what can change in them. -/
structure Session where
  registers : List Value
  store : Store

namespace Session

/-- A session before its first request. -/
def start (memory : Memory := .usual) : Session := ⟨[], .empty memory⟩

/-- The result of the request at a position. -/
def register (session : Session) (position : Nat) : Value :=
  (session.registers[position]?).getD .absent

/-- The integer that a text in an argument denotes. -/
def integerOf (text : String) : Except Fault Int :=
  match Numeral.read? text, Numeral.digitCount? text with
  | some number, _ => .ok number
  | none, some digits =>
    refuse (if Numeral.maxDigits < digits then .literalTooLong digits else .notLiteral text)
  | none, none => refuse (.notLiteral text)

/-- The real number that a text in an argument denotes. -/
def realOf (text : String) : Except Fault Binary64 :=
  match Binary64.read? text with
  | some number => .ok number
  | none => refuse (.notReal text)

/-- The bytes that a text in an argument denotes. -/
def bytesOf (text : String) : Except Fault (List UInt8) :=
  match Hexadecimal.decode text.toList with
  | .ok bytes => .ok bytes
  | .error position => refuse (.notHexadecimal position)

mutual

/-- The value of an argument that is made at an origin. -/
def evaluate (session : Session) (origin : Origin) : Argument → Except Fault Value
  | .absent => .ok .absent
  | .truth flag => .ok (.truth flag)
  | .whole number => .ok (.whole number)
  | .numeral text => (integerOf text).map .whole
  | .real text => (realOf text).map (.real · origin)
  | .text content => .ok (.text content)
  | .bytes digits => (bytesOf digits).map .bytes
  | .list items => (evaluateAll session origin 0 items).map (.list · origin)
  | .record entries => (evaluateEntries session origin 0 entries).map (.record · origin)
  | .word value width => do
    let value ← evaluate session (origin ++ [0]) value
    let width ← evaluate session (origin ++ [1]) width
    (session.store.bindWord width value).map (Value.withOrigin origin)
  | .calculator answers => do
    let answers ← evaluateEntries session origin 0 answers
    .ok (.calculator (fun operation => (answers.lookup operation.name).getD .absent) origin)
  | .capability operations => .ok (.capability operations origin)
  | .register position => .ok (session.register position)

/-- The values of arguments, of which the first has the given position within an origin. -/
def evaluateAll (session : Session) (origin : Origin) (position : Nat) :
    List Argument → Except Fault (List Value)
  | [] => .ok []
  | argument :: arguments => do
    let value ← evaluate session (origin ++ [position]) argument
    let values ← evaluateAll session origin (position + 1) arguments
    .ok (value :: values)

def evaluateEntries (session : Session) (origin : Origin) (position : Nat) :
    List (String × Argument) → Except Fault (List (String × Value))
  | [] => .ok []
  | (key, argument) :: arguments => do
    let value ← evaluate session (origin ++ [position]) argument
    let values ← evaluateEntries session origin (position + 1) arguments
    .ok ((key, value) :: values)

end

/-- The effect of a request. Its result is made behind its arguments. -/
def effect (session : Session) (request : Request) : Effect :=
  let origin : Origin := [session.registers.length]
  match session.evaluateAll origin 0 request.arguments with
  | .ok arguments =>
    let effect := request.operation.perform session.store arguments
    (effect.madeAt (origin ++ [arguments.length])).answered
  | .error fault => .pure session.store (.silent (.error fault))

/-- The registers after an effect on them: what was moved into the store is replaced in all of
them. -/
def registersAfter (session : Session) (effect : Effect) : List Value :=
  match effect.moved with
  | some replacement => session.registers.map replacement.apply
  | none => session.registers

/-- The session after a request. -/
def after (session : Session) (request : Request) : Session :=
  let effect := session.effect request
  let kept :=
    match effect.outcome.result with
    | .ok value => value
    | .error _ => .absent
  ⟨session.registersAfter effect ++ [kept], effect.store⟩

/-- The session after several requests. -/
def run (session : Session) (requests : List Request) : Session := requests.foldl after session

end Session

end PoolFees
