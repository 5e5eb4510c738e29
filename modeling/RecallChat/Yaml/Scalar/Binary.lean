import RecallChat.Yaml.Cursor

/-!
# Bytes in scalars

Bytes are written in base sixty-four, four digits for three bytes.  Characters that are no digits
are passed over.  Padding fills the last group up; what follows a full group of padding is not read.
-/

namespace RecallChat.Yaml

set_option autoImplicit false

/-- The value of a digit in base sixty-four. -/
def sixBits? (c : Char) : Option Nat :=
  if c.isUpper then some (c.toNat - 65)
  else if c.isLower then some (c.toNat - 71)
  else if c.isDigit then some (c.toNat + 4)
  else if c = '+' then some 62
  else if c = '/' then some 63
  else none

/-- How much of a group was read: its digits, the value of the bits that are not yet in a byte, and
the padding since the last digit. -/
structure ByteGroup where
  digits : Nat
  bits : Nat
  padding : Nat

/-- The byte that a further digit completes, and the group after it. -/
def ByteGroup.add (group : ByteGroup) (digit : Nat) : Option Nat × ByteGroup :=
  match group.digits with
  | 0 => (none, ⟨1, digit, 0⟩)
  | 1 => (some (group.bits * 4 + digit / 16), ⟨2, digit % 16, 0⟩)
  | 2 => (some (group.bits * 16 + digit / 4), ⟨3, digit % 4, 0⟩)
  | _ => (some (group.bits * 64 + digit), ⟨0, 0, 0⟩)

/-- The bytes of a text, if its last group is complete. -/
def bytesFrom : ByteGroup → List Char → Option (List UInt8)
  | group, [] => if group.digits = 0 then some [] else none
  | group, c :: rest =>
    if c = '=' then
      if 2 ≤ group.digits then
        if 4 ≤ group.digits + (group.padding + 1) then some []
        else bytesFrom { group with padding := group.padding + 1 } rest
      else bytesFrom group rest
    else
      match sixBits? c with
      | none => bytesFrom group rest
      | some digit =>
        match group.add digit with
        | (some byte, group) => (bytesFrom group rest).map (UInt8.ofNat byte :: ·)
        | (none, group) => bytesFrom group rest

/-- The bytes that a scalar denotes. -/
def binary (cs : List Char) : Reading (List UInt8) :=
  if cs.all fun c => c.toNat < 128 then
    match bytesFrom ⟨0, 0, 0⟩ cs with
    | some bytes => .ok bytes
    | none => .error .malformed
  else .error .malformed

end RecallChat.Yaml
