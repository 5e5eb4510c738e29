import RecallChat.Nested
import RecallChat.Yaml.Cursor

/-!
# Numbers in scalars

A whole number is written in base ten, with leading marks in base two, eight or sixteen, or in
parts of base sixty with colons between them; underscores count for nothing.  A number with a point
may be in parts, too.
-/

namespace RecallChat.Yaml

set_option autoImplicit false

/-- A fault of a text that should be a number. -/
def notNumber {α : Type} : Reading α := .error (.fault (.wrongValue "not a number"))

/-- The value of a digit in some base: a decimal digit of any script, or an ASCII letter. -/
def baseDigit? (base : Nat) (c : Char) : Option Nat :=
  let value :=
    match Text.digitValue? c with
    | some value => some value
    | none =>
      let lower := c.toLower
      if 'a' ≤ lower ∧ lower ≤ 'z' then some (lower.toNat - 87) else none
  value.filter (· < base)

/-- Digits of a base without the mark of that base. -/
def unmarked (mark : List Char) (cs : List Char) : List Char :=
  if (cs.take 2).map Char.toLower == mark then cs.drop 2 else cs

/-- A whole number in a base that may be marked; it may have a sign of its own and blanks around. -/
def wholeInBase (base : Nat) (mark : String) (cs : List Char) : Reading Int :=
  let (negative, unsigned) := Floating.takeSign (Text.trimNumber cs)
  let digits := unmarked mark.toList unsigned
  match digits.mapM (baseDigit? base) with
  | some (digit :: rest) =>
    let value : Int := ((digit :: rest).foldl (fun value digit => value * base + digit) 0 : Nat)
    .ok (if negative then -value else value)
  | _ => notNumber

/-- A whole number in base ten. -/
def wholeDecimal (cs : List Char) : Reading Int :=
  match WholeText.read (String.ofList cs) with
  | .ok value => .ok value
  | .error fault => .error (.fault fault)

/-- The parts of a text between colons. -/
def colonParts (cs : List Char) : List (List Char) :=
  ((String.ofList cs).splitOn ":").map String.toList

/-- A scalar without underscores and its sign. -/
def unsignedScalar (cs : List Char) : Bool × List Char :=
  Floating.takeSign (cs.filter (· != '_'))

/-- The whole number that a scalar denotes. -/
def wholeNumber (cs : List Char) : Reading Int := do
  let (negative, unsigned) := unsignedScalar cs
  let value ←
    match unsigned with
    | [] => .error (.fault (.outside .indexOut "no digits"))
    | ['0'] => pure 0
    | '0' :: 'b' :: digits => wholeInBase 2 "0b" digits
    | '0' :: 'x' :: digits => wholeInBase 16 "0x" digits
    | '0' :: digits => wholeInBase 8 "0o" ('0' :: digits)
    | other =>
      if other.contains ':' then
        let parts ← (colonParts other).mapM wholeDecimal
        pure (parts.foldl (fun value part => value * 60 + part) 0)
      else wholeDecimal other
  return if negative then -value else value

/-- The sum of parts in base sixty, last part first. -/
def sixtiethsSum : List Double → Nat → Double → Reading Double
  | [], _, sum => .ok sum
  | part :: rest, base, sum =>
    match Number.realOfInt? base with
    | some factor => sixtiethsSum rest (base * 60) (sum.add (part.mul factor))
    | none => .error (.fault (.tooLarge "too many parts"))

/-- A number with a point in base ten. -/
def pointDecimal (cs : List Char) : Reading Double :=
  match Floating.read? .double (String.ofList cs) with
  | some value => .ok value
  | none => notNumber

/-- The number with a point that a scalar denotes. -/
def pointNumber (cs : List Char) : Reading Double := do
  if (cs.filter (· != '_')).isEmpty then .error (.fault (.outside .indexOut "no digits"))
  else
    let (negative, unsigned) := unsignedScalar cs
    let lower := unsigned.map Char.toLower
    if lower = ".nan".toList then return .nan
    else
      let value ←
        if lower = ".inf".toList then pure (Floating.infinite .double false)
        else if lower.contains ':' then
          let parts ← (colonParts lower).mapM pointDecimal
          sixtiethsSum parts.reverse 1 (Floating.zero .double)
        else pointDecimal lower
      return if negative then value.negate else value

end RecallChat.Yaml
