import RecallChat.Json
import RecallChat.Nested

/-!
# Values in JSON

How the values of this library are written in JSON.  A number with a point or an exponent is a
floating point value; where a floating point value has to be told from an integer it is written as
an object with the field `f64`.  In lists of numbers the names `nan`, `inf` and `-inf` stand for the
values that JSON has no numbers for.
-/

namespace RecallChat.Json

set_option autoImplicit false

/-! ## Reading -/

/-- A number as it is written. -/
def numberValue (lexeme : String) : Value :=
  if lexeme.toList.any fun c => c == '.' || c == 'e' || c == 'E' || c == 'n' then
    .real ((Floating.read? .double lexeme).getD .nan)
  else .integer ((WholeText.read lexeme).toOption.getD 0)

/-- The floating point value of a single field `f64`. -/
def marked? : List (String × Json) → Option Double
  | [("f64", content)] => some ((Floating.read? .double content.string).getD .nan)
  | _ => none

mutual
/-- A value of any kind. -/
def toValue : Json → Value
  | null => .null
  | boolean value => .boolean value
  | number lexeme => numberValue lexeme
  | text value => .text value
  | illFormed points => .illFormed points
  | array items => .list (toValues items)
  | object fields =>
    match marked? fields with
    | some value => .real value
    | none => .map (toEntries fields)

/-- Several values. -/
def toValues : List Json → List Value
  | [] => []
  | item :: rest => toValue item :: toValues rest

/-- The entries of a map. -/
def toEntries : List (String × Json) → List (Value × Value)
  | [] => []
  | (name, value) :: rest => (.text name, toValue value) :: toEntries rest
end

mutual
/-- Numbers in nested lists. -/
def toNumbers : Json → Value
  | array items => .list (toNumberList items)
  | text name =>
    if name = "nan" then .real .nan
    else if name = "inf" then .real (Floating.infinite .double false)
    else if name = "-inf" then .real (Floating.infinite .double true)
    else .text name
  | illFormed points => .illFormed points
  | null => .null
  | boolean value => .boolean value
  | number lexeme => numberValue lexeme
  | object fields => toValue (object fields)

/-- Several nested numbers. -/
def toNumberList : List Json → List Value
  | [] => []
  | item :: rest => toNumbers item :: toNumberList rest
end

/-- A field as a value, if it is there. -/
def value? (json : Json) (name : String) : Option Value := (json.field? name).map toValue

/-- A field as a value, null where there is none. -/
def value (json : Json) (name : String) : Value := (json.get name).toValue

/-- An integer. -/
def toInt (json : Json) : Int := json.toValue.toInteger.toOption.getD 0

/-- A natural. -/
def toNat (json : Json) : Nat := json.toInt.toNat

/-- A floating point value. -/
def toDouble (json : Json) : Double := json.toNumbers.toDouble.toOption.getD .nan

/-! ## Writing -/

/-- An integer as JSON. -/
def ofInt (n : Int) : Json := number (toString n)

/-- A natural as JSON. -/
def ofNat (n : Nat) : Json := number (toString n)

/-- Texts as JSON. -/
def ofTexts (values : List String) : Json := array (values.map text)

/-- The bits of a floating point value as JSON; every NaN is written alike. -/
def ofFloating {format : Format} : Floating format → Json
  | .nan => text "nan"
  | value =>
    let width := (format.fractionBits + format.exponentBits + 1) / 4
    text (String.ofList (Text.hexText width value.bits))

/-- A vector as JSON. -/
def ofVector (vector : List Single) : Json := array (vector.map ofFloating)

mutual
/-- A value as JSON, as far as JSON has such a value. -/
def ofValue : Value → Json
  | .null => null
  | .boolean value => boolean value
  | .integer n => ofInt n
  | .real x => ofFloating x
  | .text value => text value
  | .list items => array (ofValues items)
  | .tuple items => array (ofValues items)
  | .map entries => object (ofEntries entries)
  | other => text other.display

/-- Several values as JSON. -/
def ofValues : List Value → List Json
  | [] => []
  | item :: rest => ofValue item :: ofValues rest

/-- The entries of a map as JSON. -/
def ofEntries : List (Value × Value) → List (String × Json)
  | [] => []
  | (key, value) :: rest => (key.display, ofValue value) :: ofEntries rest
end

mutual
/-- A value as JSON that shows its kind. -/
def describe : Value → Json
  | .null => null
  | .boolean value => boolean value
  | .integer n => ofInt n
  | .text value => text value
  | .illFormed points => text points.replaced
  | .real x => object [("f64", ofFloating x)]
  | .list items => array (describeAll items)
  | .tuple items => array (describeAll items)
  | .map entries => object [("map", array (describeEntries entries))]
  | .date date => object [("date", text date.standard)]
  | .moment moment => object [("datetime", text (moment.standard "T"))]
  | .bytes bytes =>
    object [("bytes", text (String.ofList
      (bytes.flatMap fun byte => Text.hexText 2 byte.toNat)))]
  | other => object [("other", text other.kindName)]

/-- Several values as JSON that shows their kinds. -/
def describeAll : List Value → List Json
  | [] => []
  | item :: rest => describe item :: describeAll rest

/-- The entries of a map as pairs. -/
def describeEntries : List (Value × Value) → List Json
  | [] => []
  | (key, value) :: rest => array [describe key, describe value] :: describeEntries rest
end

end RecallChat.Json
