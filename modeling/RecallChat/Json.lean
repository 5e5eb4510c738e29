import RecallChat.Text.CodePoints
import RecallChat.Text.Quoted

/-!
# JSON values

Model scripts and tokenizer artifacts are JSON.  A number keeps the text in which it is written,
because an integer and a fraction are different kinds of number here and integers have any size.
An object keeps its fields in order.  An escape can name half of a surrogate pair alone, so a text
need not be a string.
-/

namespace RecallChat

set_option autoImplicit false

/-- A JSON value. -/
inductive Json where
  | null
  | boolean (value : Bool)
  | number (lexeme : String)
  | text (value : String)
  /-- A text with surrogates among its code points. -/
  | illFormed (points : Text.CodePoints)
  | array (items : List Json)
  | object (fields : List (String × Json))

instance : Inhabited Json := ⟨.null⟩

namespace Json

/-- A text by its code points. -/
def ofPoints (points : Text.CodePoints) : Json :=
  match points.toString? with
  | some value => text value
  | none => illFormed points

/-! ## Access -/

/-- The value of a field. -/
def field? : Json → String → Option Json
  | object fields, name => (fields.find? fun entry => entry.1 == name).map Prod.snd
  | _, _ => none

/-- The value of a field, null where there is none. -/
def get (json : Json) (name : String) : Json := (json.field? name).getD null

/-- The items of an array. -/
def items : Json → List Json
  | array items => items
  | _ => []

/-- The fields of an object. -/
def fields : Json → List (String × Json)
  | object fields => fields
  | _ => []

/-- The content of a text; the replacement character stands for a surrogate. -/
def string : Json → String
  | text value => value
  | illFormed points => points.replaced
  | number lexeme => lexeme
  | _ => ""

/-- The content of a text by its code points. -/
def points : Json → Text.CodePoints
  | illFormed points => points
  | other => .ofString other.string

/-- The text of a field, or another text where there is none. -/
def stringOr (json : Json) (name fallback : String) : String :=
  match json.field? name with
  | some (text value) => value
  | _ => fallback

/-- Whether a field is true. -/
def flag (json : Json) (name : String) : Bool := json.get name matches boolean true

/-! ## Writing -/

/-- A character inside a JSON text. -/
def escaped (c : Char) : List Char :=
  if c = '"' ∨ c = '\\' then ['\\', c]
  else if c.toNat < 0x20 then '\\' :: 'u' :: Text.hexText 4 c.toNat
  else [c]

/-- A text in JSON quotes. -/
def quoted (value : String) : String :=
  String.ofList ('"' :: value.toList.flatMap escaped ++ ['"'])

/-- A code point inside a JSON text; a surrogate is written as its escape. -/
def escapedPoint (point : Nat) : List Char :=
  if Text.CodePoints.isSurrogate point then '\\' :: 'u' :: Text.hexText 4 point
  else escaped (Text.CodePoints.character point)

/-- A text of code points in JSON quotes. -/
def quotedPoints (points : Text.CodePoints) : String :=
  String.ofList ('"' :: points.flatMap escapedPoint ++ ['"'])

mutual
/-- A JSON value as text. -/
def render : Json → String
  | null => "null"
  | boolean value => if value then "true" else "false"
  | number lexeme => lexeme
  | text value => quoted value
  | illFormed points => quotedPoints points
  | array items => "[" ++ ", ".intercalate (renderItems items) ++ "]"
  | object fields => "\x7b" ++ ", ".intercalate (renderFields fields) ++ "\x7d"

/-- Several JSON values as texts. -/
def renderItems : List Json → List String
  | [] => []
  | item :: rest => render item :: renderItems rest

/-- Fields of an object as texts. -/
def renderFields : List (String × Json) → List String
  | [] => []
  | (name, value) :: rest => (quoted name ++ ": " ++ render value) :: renderFields rest
end

end Json

end RecallChat
