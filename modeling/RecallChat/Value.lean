import RecallChat.Calendar
import RecallChat.Fault
import RecallChat.Number
import RecallChat.Path

/-!
# Values of configuration and records

The values that a configuration file, an argument or a stored record can hold.  Two written forms
are defined: `shown`, with texts in quotes, and `display`, which differs from it at the top level
for texts and calendar values only; an integer of too many digits has neither (`isWritable`).  Keys
compare by `sameKey`: numbers by exact value, with `true` and `false` standing for one and zero, and
a number that is none is the same key as itself.
-/

namespace RecallChat

set_option autoImplicit false

/-- A value of a configuration file, an argument or a record. -/
inductive Value where
  | null
  | boolean (value : Bool)
  | integer (value : Int)
  | real (value : Double)
  | text (value : String)
  /-- A text with surrogates among its code points. -/
  | illFormed (points : Text.CodePoints)
  | bytes (value : List UInt8)
  | date (value : Date)
  | moment (value : Moment)
  | list (items : List Value)
  | tuple (items : List Value)
  | set (items : List Value)
  | map (entries : List (Value × Value))
  /-- A reference back to a list or map that holds it. -/
  | enclosing (isMap : Bool)

instance : Inhabited Value := ⟨.null⟩

namespace Value

/-- A text by its code points. -/
def ofPoints (points : Text.CodePoints) : Value :=
  match points.toString? with
  | some value => text value
  | none => illFormed points

/-- A value that is a text, as a string; the replacement character stands for a surrogate. -/
def string? : Value → Option String
  | text value => some value
  | illFormed points => some points.replaced
  | _ => none

/-- The code points of a value that is a text. -/
def points? : Value → Option Text.CodePoints
  | text value => some (.ofString value)
  | illFormed points => some points
  | _ => none

/-- The name of the kind of a value. -/
def kindName : Value → String
  | null => "NoneType"
  | boolean _ => "bool"
  | integer _ => "int"
  | real _ => "float"
  | text _ => "str"
  | illFormed _ => "str"
  | bytes _ => "bytes"
  | date _ => "date"
  | moment _ => "datetime"
  | list _ => "list"
  | tuple _ => "tuple"
  | set _ => "set"
  | map _ => "dict"
  | enclosing isMap => if isMap then "dict" else "list"

/-- The path that a value is taken for; only a text can be one. -/
def toPath (value : Value) : Except Fault Path :=
  match value.points? with
  | some points => .ok (.ofPoints points)
  | none => .error (.wrongType ("no path can be of kind " ++ value.kindName))

/-- A truth value as text. -/
def truthText (value : Bool) : String := if value then "True" else "False"

/-- Bytes in quotes, each byte that is not a printable ASCII character escaped. -/
def quotedBytes (value : List UInt8) : String :=
  let cs := value.map fun byte => Char.ofNat byte.toNat
  let quote := Text.quoteFor cs
  let byteText (c : Char) : List Char :=
    if c.toNat < 0x7f then Text.quotedChar quote c else Text.numericEscape c
  String.ofList ('b' :: quote :: cs.flatMap byteText ++ [quote])

/-- Opening and closing brace, for sets and maps. -/
def braced (items : List String) : String := "\x7b" ++ ", ".intercalate items ++ "\x7d"

mutual
/-- The quoting form of a value. -/
def shown : Value → String
  | null => "None"
  | boolean value => truthText value
  | integer value => toString value
  | real value => value.shortest
  | text value => Text.quoted value
  | illFormed points => points.quoted
  | bytes value => quotedBytes value
  | date value => value.described
  | moment value => value.described
  | list items => Text.bracketed (shownItems items)
  | tuple items =>
    match shownItems items with
    | [single] => "(" ++ single ++ ",)"
    | several => "(" ++ ", ".intercalate several ++ ")"
  | set items => if items.isEmpty then "set()" else braced (shownItems items)
  | map entries => braced (shownEntries entries)
  | enclosing isMap => if isMap then braced ["..."] else Text.bracketed ["..."]

/-- The quoting forms of several values. -/
def shownItems : List Value → List String
  | [] => []
  | item :: rest => shown item :: shownItems rest

/-- The quoting forms of key and value pairs. -/
def shownEntries : List (Value × Value) → List String
  | [] => []
  | (key, value) :: rest => (shown key ++ ": " ++ shown value) :: shownEntries rest
end

/-- The plain form of a value. -/
def display : Value → String
  | text value => value
  | illFormed points => points.replaced
  | date value => value.standard
  | moment value => value.standard " "
  | value => value.shown

/-- The plain form of a value by its code points; surrogates stay as they are. -/
def displayed : Value → Text.CodePoints
  | illFormed points => points
  | value => .ofString value.display

mutual
/-- Whether every integer in a value has few enough digits to be written. -/
def isWritable : Value → Bool
  | integer value => decide (value.natAbs < 10 ^ Text.maxDigits)
  | list items => allWritable items
  | tuple items => allWritable items
  | set items => allWritable items
  | map entries => entriesWritable entries
  | _ => true

/-- Whether several values can be written. -/
def allWritable : List Value → Bool
  | [] => true
  | item :: rest => isWritable item && allWritable rest

/-- Whether keys and values can be written. -/
def entriesWritable : List (Value × Value) → Bool
  | [] => true
  | (key, value) :: rest => isWritable key && isWritable value && entriesWritable rest
end

mutual
/-- Whether a value refers back to a collection that holds it. -/
def isRecursive : Value → Bool
  | enclosing _ => true
  | list items => anyRecursive items
  | tuple items => anyRecursive items
  | map entries => entriesRecursive entries
  | _ => false

/-- Whether one of several values does. -/
def anyRecursive : List Value → Bool
  | [] => false
  | item :: rest => isRecursive item || anyRecursive rest

/-- Whether the value of an entry does; keys cannot. -/
def entriesRecursive : List (Value × Value) → Bool
  | [] => false
  | (_, value) :: rest => isRecursive value || entriesRecursive rest
end

/-- The number that a value is, with `true` and `false` as one and zero. -/
def number? : Value → Option Number
  | boolean value => some (.integer (if value then 1 else 0))
  | integer value => some (.integer value)
  | real value => some (.real value)
  | _ => none

/-- Whether a value counts as true: zero, empty and null do not. -/
def isTruthy : Value → Bool
  | null => false
  | boolean value => value
  | integer value => value != 0
  | real value => !value.isZero
  | text value => !value.isEmpty
  | bytes value => !value.isEmpty
  | list items => !items.isEmpty
  | tuple items => !items.isEmpty
  | set items => !items.isEmpty
  | map entries => !entries.isEmpty
  | _ => true

/-- The number of characters, bytes, items or entries of a value, none where it has none of them. -/
def length? : Value → Option Nat
  | text value => some value.length
  | illFormed points => some points.length
  | bytes value => some value.length
  | list items => some items.length
  | tuple items => some items.length
  | set items => some items.length
  | map entries => some entries.length
  | _ => none

mutual
/-- Whether a value can be a key. -/
def isHashable : Value → Bool
  | list _ => false
  | set _ => false
  | map _ => false
  | enclosing _ => false
  | tuple items => allHashable items
  | _ => true

/-- Whether all of several values can be keys. -/
def allHashable : List Value → Bool
  | [] => true
  | item :: rest => isHashable item && allHashable rest
end

/-- Whether two moments are the same: two local times, or two points in universal time. -/
def sameMoment (a b : Moment) : Bool :=
  a.offset.isSome == b.offset.isSome && a.microseconds == b.microseconds

mutual
/-- Whether two keys are the same. -/
def sameKey : Value → Value → Bool
  | null, null => true
  | text a, text b => a == b
  | illFormed a, illFormed b => a == b
  | bytes a, bytes b => a == b
  | date a, date b => a == b
  | moment a, moment b => sameMoment a b
  | tuple a, tuple b => sameKeys a b
  | real a, real b => a.isNaN && b.isNaN || (Number.real a).same (.real b)
  | a, b =>
    match a.number?, b.number? with
    | some x, some y => x.same y
    | _, _ => false

/-- Whether two lists of keys are the same. -/
def sameKeys : List Value → List Value → Bool
  | [], [] => true
  | a :: as, b :: bs => sameKey a b && sameKeys as bs
  | _, _ => false
end

/-- The value of a key among key and value pairs. -/
def find? (key : Value) (entries : List (Value × Value)) : Option Value :=
  (entries.find? fun entry => sameKey entry.1 key).map Prod.snd

/-- Key and value pairs with one key set: in its old place, or at the end when it is new. -/
def insert (key value : Value) : List (Value × Value) → List (Value × Value)
  | [] => [(key, value)]
  | entry :: rest =>
    if sameKey entry.1 key then (entry.1, value) :: rest else entry :: insert key value rest

/-- The value of a text key in a map. -/
def field? (name : String) : Value → Option Value
  | map entries => find? (text name) entries
  | _ => none

end Value

end RecallChat
