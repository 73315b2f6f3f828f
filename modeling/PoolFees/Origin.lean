/-!
# Origins

Some values are not determined by what they contain: two numbers `nan` differ unless one is the
other, passed on, and a word whose parts are assigned to changes wherever it is held. Such values
remember where they were made. Together with the handles of what is kept in a store, origins give
values an identity.
-/

namespace PoolFees

/-- Where a value was made: the number of the request that made it, followed by the position in the
arguments of that request. Passing a value on keeps its origin. The empty origin says nothing. -/
abbrev Origin : Type := List Nat

/-- What tells a value from all others that look the same. -/
inductive Identity where
  | word (handle : Nat)
  | record (handle : Nat)
  | form (handle : Nat)
  | made (origin : Origin)
deriving DecidableEq, Repr, Inhabited

namespace Origin

/-- The identity that an origin gives, if it says anything. -/
def identity? : Origin → Option Identity
  | [] => none
  | origin => some (.made origin)

end Origin

end PoolFees
