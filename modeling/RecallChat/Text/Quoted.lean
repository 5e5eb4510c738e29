import RecallChat.Text.CodePoints
import RecallChat.Text.Printable

/-!
# Quoted text

The form in which a text is shown inside a list or as a key: between single quotes, or between
double quotes when it holds a single quote and no double one.  The chosen quote and the backslash
are escaped, tab, newline and carriage return have short escapes, and every other character that is
not printable is written with the shortest of the numeric escapes of two, four and eight digits.  A
surrogate has an escape of four digits.
-/

namespace RecallChat.Text

set_option autoImplicit false

/-- A number in lower-case hexadecimal with at least the given number of digits. -/
def hexText (width value : Nat) : List Char :=
  let digits := Nat.toDigits 16 value
  List.replicate (width - digits.length) '0' ++ digits

/-- The numeric escape of a character. -/
def numericEscape (c : Char) : List Char :=
  if c.toNat < 0x100 then '\\' :: 'x' :: hexText 2 c.toNat
  else if c.toNat < 0x10000 then '\\' :: 'u' :: hexText 4 c.toNat
  else '\\' :: 'U' :: hexText 8 c.toNat

/-- A character as it stands between two given quotes. -/
def quotedChar (quote c : Char) : List Char :=
  if c = quote ∨ c = '\\' then ['\\', c]
  else if c = '\t' then ['\\', 't']
  else if c = '\n' then ['\\', 'n']
  else if c = '\r' then ['\\', 'r']
  else if isPrintable c then [c]
  else numericEscape c

/-- The quote a text is put in: single, unless only a single quote occurs in it. -/
def quoteFor (cs : List Char) : Char :=
  if cs.contains '\'' && !cs.contains '"' then '"' else '\''

/-- A text in quotes. -/
def quoted (text : String) : String :=
  let cs := text.toList
  let quote := quoteFor cs
  String.ofList (quote :: cs.flatMap (quotedChar quote) ++ [quote])

/-- A code point as it stands between two given quotes. -/
def quotedPoint (quote : Char) (point : Nat) : List Char :=
  if CodePoints.isSurrogate point then '\\' :: 'u' :: hexText 4 point
  else quotedChar quote (Char.ofNat point)

/-- Code points in quotes. -/
def CodePoints.quoted (points : CodePoints) : String :=
  let quote := quoteFor (points.map character)
  String.ofList (quote :: points.flatMap (quotedPoint quote) ++ [quote])

/-- A list of shown items: square brackets around items separated by a comma and a space. -/
def bracketed (items : List String) : String := "[" ++ ", ".intercalate items ++ "]"

end RecallChat.Text
