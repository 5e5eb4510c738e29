import RecallChat.Json
import RecallChat.Named
import RecallChat.Text.Digit

/-!
# Reading JSON

A reader by descent.  Every part reads a value from the front of the characters and gives back what
follows it; nested values are read with less and less fuel, of which a text needs at most two for
each of its characters.  Of several fields of one name the last counts, in the place of the first.
-/

namespace RecallChat.Json

set_option autoImplicit false

/-- A space between JSON tokens. -/
def isSpace (c : Char) : Bool := c == ' ' || c == '\n' || c == '\r' || c == '\t'

/-- The characters after leading spaces. -/
def skipSpace (cs : List Char) : List Char := cs.dropWhile isSpace

/-! ## Texts -/

/-- The value of a hexadecimal digit. -/
def hexDigit? (c : Char) : Option Nat :=
  if '0' ≤ c ∧ c ≤ '9' then some (c.toNat - 48)
  else if 'a' ≤ c ∧ c ≤ 'f' then some (c.toNat - 87)
  else if 'A' ≤ c ∧ c ≤ 'F' then some (c.toNat - 55)
  else none

/-- The value of hexadecimal digits. -/
def hexValue? (cs : List Char) : Option Nat :=
  (cs.mapM hexDigit?).map fun digits => digits.foldl (fun value digit => value * 16 + digit) 0

/-- The character of an escape by one letter. -/
def shortEscape? (c : Char) : Option Char :=
  if c = '"' ∨ c = '\\' ∨ c = '/' then some c
  else if c = 'n' then some '\n'
  else if c = 't' then some '\t'
  else if c = 'r' then some '\r'
  else if c = 'b' then some '\x08'
  else if c = 'f' then some '\x0c'
  else none

/-- A numeric escape after its first two characters, as a code point and the number of characters
that were read: one code unit, or a surrogate pair. -/
def numericEscape? (cs : List Char) : Option (Nat × Nat) := do
  let high ← hexValue? (cs.take 4)
  if (cs.take 4).length < 4 then none
  else
    let pair : Option Nat := do
      if cs.drop 4 |>.take 2 |> (· == ['\\', 'u']) then
        let low ← hexValue? (cs.drop 6 |>.take 4)
        if 0xd800 ≤ high ∧ high < 0xdc00 ∧ 0xdc00 ≤ low ∧ low < 0xe000 then
          some (0x10000 + (high - 0xd800) * 0x400 + (low - 0xdc00))
        else none
      else none
    match pair with
    | some point => some (point, 10)
    | none => some (high, 4)

/-- The code points of the rest of a text after its opening quote; `skip` characters belong to an
escape that was read already. -/
def readText : Nat → List Nat → List Char → Option (Text.CodePoints × List Char)
  | _, _, [] => none
  | skip + 1, done, _ :: rest => readText skip done rest
  | 0, done, c :: rest =>
    if c = '"' then some (done.reverse, rest)
    else if c.toNat < 0x20 then none
    else if c = '\\' then
      match rest with
      | 'u' :: digits =>
        match numericEscape? digits with
        | some (value, used) => readText (used + 1) (value :: done) rest
        | none => none
      | letter :: _ =>
        match shortEscape? letter with
        | some value => readText 1 (value.toNat :: done) rest
        | none => none
      | [] => none
    else readText 0 (c.toNat :: done) rest

/-! ## Numbers -/

/-- A character that can stand in a number. -/
def isNumberChar (c : Char) : Bool :=
  c.isDigit || c == '-' || c == '+' || c == '.' || c == 'e' || c == 'E'

/-- Whether characters are the exponent of a number, or nothing. -/
def isExponent : List Char → Bool
  | [] => true
  | e :: rest =>
    let digits := match rest with
      | '+' :: digits => digits
      | '-' :: digits => digits
      | digits => digits
    (e == 'e' || e == 'E') && !digits.isEmpty && digits.all Char.isDigit

/-- Whether characters are a number. -/
def isNumber (lexeme : List Char) : Bool :=
  let unsigned := match lexeme with
    | '-' :: rest => rest
    | other => other
  let whole := unsigned.takeWhile Char.isDigit
  let rest := unsigned.dropWhile Char.isDigit
  let wholeFits := !whole.isEmpty && (whole.length == 1 || whole.head? != some '0')
  match rest with
  | '.' :: fraction =>
    wholeFits && !(fraction.takeWhile Char.isDigit).isEmpty &&
      isExponent (fraction.dropWhile Char.isDigit)
  | other => wholeFits && isExponent other

/-! ## Values -/

/-- The words that stand for values, with those values. -/
def words : List (List Char × Json) :=
  [("null".toList, .null), ("true".toList, .boolean true), ("false".toList, .boolean false),
    ("NaN".toList, .number "nan"), ("Infinity".toList, .number "inf"),
    ("-Infinity".toList, .number "-inf")]

/-- Whether characters that are a number are a whole one with too many digits to be read. -/
def isTooLong (lexeme : List Char) : Bool :=
  lexeme.all (fun c => c.isDigit || c == '-') &&
    decide (Text.maxDigits < (lexeme.filter Char.isDigit).length)

/-- A word or a number at the front of characters. -/
def readAtom (cs : List Char) : Option (Json × List Char) :=
  match words.find? fun word => word.1.isPrefixOf cs with
  | some word => some (word.2, cs.drop word.1.length)
  | none =>
    let lexeme := cs.takeWhile isNumberChar
    if isNumber lexeme && !isTooLong lexeme then
      some (.number (String.ofList lexeme), cs.drop lexeme.length)
    else none

mutual
/-- A value at the front of characters. -/
def readValue : Nat → List Char → Option (Json × List Char)
  | 0, _ => none
  | fuel + 1, cs =>
    match skipSpace cs with
    | '"' :: rest => (readText 0 [] rest).map fun (points, rest) => (.ofPoints points, rest)
    | '[' :: rest =>
      match skipSpace rest with
      | ']' :: rest => some (.array [], rest)
      | rest => (readItems fuel rest).map fun (items, rest) => (.array items, rest)
    | '\x7b' :: rest =>
      match skipSpace rest with
      | '\x7d' :: rest => some (.object [], rest)
      | rest =>
        (readFields fuel rest).map fun (fields, rest) => (.object (distinctNames fields), rest)
    | rest => readAtom rest

/-- The items of an array up to its closing bracket. -/
def readItems : Nat → List Char → Option (List Json × List Char)
  | 0, _ => none
  | fuel + 1, cs => do
    let (item, rest) ← readValue fuel cs
    match skipSpace rest with
    | ',' :: rest => (readItems fuel rest).map fun (items, rest) => (item :: items, rest)
    | ']' :: rest => some ([item], rest)
    | _ => none

/-- The fields of an object up to its closing brace. -/
def readFields : Nat → List Char → Option (List (String × Json) × List Char)
  | 0, _ => none
  | fuel + 1, cs =>
    match skipSpace cs with
    | '"' :: rest => do
      let (points, rest) ← readText 0 [] rest
      let name := points.replaced
      match skipSpace rest with
      | ':' :: rest =>
        let (value, rest) ← readValue fuel rest
        match skipSpace rest with
        | ',' :: rest =>
          (readFields fuel rest).map fun (fields, rest) => ((name, value) :: fields, rest)
        | '\x7d' :: rest => some ([(name, value)], rest)
        | _ => none
      | _ => none
    | _ => none
end

/-- The value that a whole text denotes. -/
def read? (source : String) : Option Json :=
  let cs := source.toList
  match readValue (2 * cs.length + 2) cs with
  | some (json, rest) => if (skipSpace rest).isEmpty then some json else none
  | none => none

/-- The value that the bytes of a file denote. -/
def ofBytes? (bytes : ByteArray) : Option Json := (String.fromUTF8? bytes).bind read?

end RecallChat.Json
