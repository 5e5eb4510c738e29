import RecallChat.Fault
import RecallChat.Floating.Decimal

/-!
# Whole numbers as texts

A whole number is written with decimal digits of any script and single underscores between them, a
sign in front and blanks around.  A run of too many digits is refused before it is looked at any
further, so it is refused as too long even where something else follows it.
-/

namespace RecallChat.WholeText

set_option autoImplicit false

/-- The number of digits at the front, underscores between digits left out; there is none where two
underscores follow each other or the run ends in one. -/
def digitsInFront : List Char → Option Nat
  | [] => some 0
  | c :: rest =>
    if (Text.digitValue? c).isSome then (digitsInFront rest).map (· + 1)
    else if c = '_' then
      match rest with
      | d :: _ => if (Text.digitValue? d).isSome then digitsInFront rest else none
      | [] => none
    else some 0

/-- The fault of a text that is no whole number; long texts are cut in it. -/
def refusal (quoted : String) : Fault :=
  .wrongValue ("invalid literal for int() with base 10: " ++ String.ofList (quoted.toList.take 200))

/-- The fault of too many digits. -/
def tooLong (digits : Nat) : Fault :=
  .wrongValue ("Exceeds the limit (" ++ toString Text.maxDigits ++
    " digits) for integer string conversion: value has " ++ toString digits ++
    " digits; use sys.set_int_max_str_digits() to increase the limit")

/-- The whole number that characters denote; a refusal shows them in the given form. -/
def ofCharacters (shown : String) (cs : List Char) : Except Fault Int :=
  let (negative, unsigned) := Floating.takeSign (Text.trimNumber cs)
  let count := (digitsInFront unsigned).getD 0
  if unsigned.head? != some '_' ∧ Text.maxDigits < count then .error (tooLong count)
  else
    match Floating.digitRun unsigned with
    | (digit :: digits, []) =>
      let value : Int := Text.digitsValue (digit :: digits)
      .ok (if negative then -value else value)
    | _ => .error (refusal shown)

/-- The whole number that a text denotes. -/
def read (text : String) : Except Fault Int := ofCharacters (Text.quoted text) text.toList

/-- The character of a byte of a number; only ASCII characters can stand in one. -/
def byteCharacter (byte : UInt8) : Char :=
  if byte < 0x80 then Char.ofNat byte.toNat else '\ufffd'

end RecallChat.WholeText
