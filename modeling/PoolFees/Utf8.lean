/-!
# Text in bytes

Bytes are text when they are the UTF-8 encoding of characters, each in its shortest form and none of
them a surrogate. Where they stop to be, a fault says at which byte and how many bytes are wrong, or
that the bytes end within a character.
-/

namespace PoolFees.Utf8

/-- Where bytes stop to be text, and how many are wrong there unless the bytes just end. -/
structure Flaw where
  start : Nat
  length : Option Nat
deriving DecidableEq, Repr, Inhabited

/-- What the first byte of a character announces. -/
structure Lead where
  /-- The bits of the character that the first byte holds. -/
  bits : Nat
  /-- The number of bytes that follow. -/
  following : Nat
  /-- The least and the greatest byte that may follow first. -/
  least : Nat
  greatest : Nat
deriving DecidableEq, Repr, Inhabited

/-- What a byte announces as the first one of a character. -/
def lead? (byte : Nat) : Option Lead :=
  if byte < 0x80 then some ⟨byte, 0, 0x80, 0xBF⟩
  else if byte < 0xC2 then none
  else if byte < 0xE0 then some ⟨byte - 0xC0, 1, 0x80, 0xBF⟩
  else if byte = 0xE0 then some ⟨0, 2, 0xA0, 0xBF⟩
  else if byte = 0xED then some ⟨byte - 0xE0, 2, 0x80, 0x9F⟩
  else if byte < 0xF0 then some ⟨byte - 0xE0, 2, 0x80, 0xBF⟩
  else if byte = 0xF0 then some ⟨0, 3, 0x90, 0xBF⟩
  else if byte < 0xF4 then some ⟨byte - 0xF0, 3, 0x80, 0xBF⟩
  else if byte = 0xF4 then some ⟨byte - 0xF0, 3, 0x80, 0x8F⟩
  else none

/-- The characters of bytes, given the position of the first one. While a character is incomplete,
`pending` holds what it announced and `taken` the number of its bytes so far. -/
def decodeFrom (position : Nat) : (pending : Option (Lead × Nat)) → List UInt8 →
    Except Flaw (List Char)
  | none, [] => .ok []
  | some (_, taken), [] => .error ⟨position - taken, none⟩
  | none, byte :: bytes =>
    match lead? byte.toNat with
    | none => .error ⟨position, some 1⟩
    | some lead =>
      if lead.following = 0 then
        (decodeFrom (position + 1) none bytes).map (Char.ofNat lead.bits :: ·)
      else decodeFrom (position + 1) (some (lead, 1)) bytes
  | some (lead, taken), byte :: bytes =>
    if lead.least ≤ byte.toNat && byte.toNat ≤ lead.greatest then
      let next : Lead := ⟨lead.bits * 64 + byte.toNat % 64, lead.following - 1, 0x80, 0xBF⟩
      if next.following = 0 then
        (decodeFrom (position + 1) none bytes).map (Char.ofNat next.bits :: ·)
      else decodeFrom (position + 1) (some (next, taken + 1)) bytes
    else .error ⟨position - taken, some taken⟩

/-- The text that bytes encode. -/
def decode (bytes : List UInt8) : Except Flaw String :=
  (decodeFrom 0 none bytes).map String.ofList

end PoolFees.Utf8
