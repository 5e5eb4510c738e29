import RecallChat.Value
import RecallChat.Fault

/-!
# Columns of an archive

What a value becomes in a column of text or of integers.  A text column takes any value: a text
stands for itself, a number and a truth value for their plain forms, and a collection for the form
that the database gives it, in which a text has quotes only where it could be misread
(`needsQuotes`).  The items of a list are stored as one kind: beside a real number an integer is a
real number, and beside a number a truth value is one.  What the database has no kind for it refuses
with a fault of its own: a text with surrogates, an integer of too many bits, a collection whose
items are of several kinds or that holds itself (`convert`).
-/

namespace RecallChat

set_option autoImplicit false

namespace Column

/-! ## Texts inside collections -/

/-- The characters that mean something in the form of a collection. -/
def marks : List Char := "\"'(),:=[\\]\x7b\x7d".toList

/-- Whether a character is a blank at the end of a text. -/
def isOuterBlank (c : Char) : Bool := c == ' ' || ('\t' ≤ c && c ≤ '\r')

/-- Whether a text inside a collection could be misread without quotes. -/
def needsQuotes (text : String) : Bool :=
  let cs := text.toList
  cs.isEmpty || text.toLower == "null" || cs.head?.any isOuterBlank ||
    cs.getLast?.any isOuterBlank || cs.any marks.contains

/-- A text in single quotes, with a backslash before each quote and backslash of its own. -/
def inQuotes (text : String) : String :=
  let escape (c : Char) : List Char := if c == '\'' || c == '\\' then ['\\', c] else [c]
  String.ofList ('\'' :: text.toList.flatMap escape ++ ['\''])

/-- A text inside a collection. -/
def nestedText (text : String) : String := if needsQuotes text then inQuotes text else text

/-! ## The forms of values -/

/-- What the items of a list are stored as. -/
inductive ItemKind where
  | whole
  | real
  | text
  | other
  deriving DecidableEq

/-- What the items of a list are stored as. -/
def ItemKind.ofItems (items : List Value) : ItemKind :=
  if items.any (· matches .text _) then .text
  else if items.any (· matches .real _) then .real
  else if items.any (· matches .integer _) then .whole
  else .other

/-- A value that is no collection, as an item of a list. -/
def itemForm (kind : ItemKind) : Value → String
  | .null => "NULL"
  | .boolean value =>
    match kind with
    | .whole => if value then "1" else "0"
    | .real => if value then "1.0" else "0.0"
    | _ => if value then "true" else "false"
  | .integer value =>
    if kind = .real then (Floating.ofInt .double value).shortest else toString value
  | .text value => nestedText value
  | value => value.display

/-- The form of a collection among items of a kind: beside texts it is itself a text. -/
def collected (kind : ItemKind) (form : String) : String :=
  if kind = .text then nestedText form else form

mutual
/-- The form of a value among items of a kind. -/
def form (kind : ItemKind) : Value → String
  | .list items => collected kind (Text.bracketed (itemForms (.ofItems items) items))
  | .map entries => collected kind (Value.braced (entryForms entries))
  | value => itemForm kind value

/-- The forms of the items of a list. -/
def itemForms (kind : ItemKind) : List Value → List String
  | [] => []
  | item :: rest => form kind item :: itemForms kind rest

/-- The forms of key and value pairs; a key always has quotes. -/
def entryForms : List (Value × Value) → List String
  | [] => []
  | (key, value) :: rest => (inQuotes key.display ++ ": " ++ form .other value) :: entryForms rest
end

/-! ## What can be stored -/

/-- Whether the items of a list can be stored as one kind: numbers and collections only beside
texts. -/
def areOfOneKind (items : List Value) : Bool :=
  ItemKind.ofItems items == .text ||
    !(items.any (· matches .list _) && items.any (· matches .map _)) &&
    !(items.any (fun item => item matches .list _ || item matches .map _) &&
      items.any (fun item => item matches .boolean _ || item matches .integer _ ||
        item matches .real _))

/-- The fault of a text with surrogates, which is no text of the database. -/
def unreadableText : Fault := .outside .invalidInput "a text with surrogates"

/-- The fault of a value for which the database has no kind. -/
def withoutKind : Fault := .outside .invalidInput "a value for which the database has no kind"

mutual
/-- Whether a value can be handed to the database: a text has to be free of surrogates, an integer
has at most 128 bits, and a reference back to an enclosing collection has no end to write. -/
def convert : Value → Except Fault Unit
  | .illFormed _ => .error unreadableText
  | .integer value =>
    if -(2 ^ 127 : Int) ≤ value ∧ value < 2 ^ 127 then .ok () else .error withoutKind
  | .list items => do
    convertAll items
    if areOfOneKind items then .ok () else .error withoutKind
  | .tuple items => convertAll items
  | .set items => convertAll items
  | .map entries => convertEntries entries
  | .enclosing _ => .error withoutKind
  | _ => .ok ()

/-- Whether several values can be handed to the database, one after the other. -/
def convertAll : List Value → Except Fault Unit
  | [] => .ok ()
  | item :: rest => do
    convert item
    convertAll rest

/-- Whether keys and values can be handed to the database; the keys are its names of fields. -/
def convertEntries : List (Value × Value) → Except Fault Unit
  | [] => .ok ()
  | (key, value) :: rest => do
    if key matches .illFormed _ then .error unreadableText
    convert value
    convertEntries rest
end

/-- What a value is in a text column; null is no text. -/
def text? : Value → Except Fault (Option String)
  | .null => .ok none
  | .text value => .ok (some value)
  | value => do
    convert value
    return some (form .other value)

/-- What a value is in a column of integers of thirty-two bits with a sign. -/
def integer (value : Value) : Except Fault Int :=
  match value.number? with
  | some (.integer n) =>
    if -(2 ^ 31 : Int) ≤ n ∧ n < 2 ^ 31 then .ok n
    else .error (.outside .conversion "integer too large for thirty-two bits")
  | _ => .error (.outside .conversion "not an integer of thirty-two bits")

/-- The value of a column that must have one. -/
def required : Option String → Except Fault String
  | some value => .ok value
  | none => .error (.outside .constraint "a column without a value")

end Column

end RecallChat
