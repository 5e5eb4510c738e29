import RecallChat.Text.CodePoints

/-!
# YAML tokens

The tokens of a text.  Indentation shows as block starts and block ends, and a key that was not
marked as such still has a `key` token before it.
-/

namespace RecallChat.Yaml

set_option autoImplicit false

/-- A line that speaks about the document after it. -/
inductive Directive where
  | version (major minor : Nat)
  | handle (name meaning : String)
  | other
  deriving DecidableEq, Repr

/-- A token. -/
inductive Token where
  | directive (directive : Directive)
  | documentStart
  | documentEnd
  | streamEnd
  | blockSequenceStart
  | blockMappingStart
  | blockEnd
  | flowSequenceStart
  | flowSequenceEnd
  | flowMappingStart
  | flowMappingEnd
  | blockEntry
  | flowEntry
  | key
  | value
  | alias (name : String)
  | anchor (name : String)
  | tag (handle : Option String) (suffix : String)
  | scalar (text : Text.CodePoints) (isPlain : Bool)
  deriving DecidableEq, Repr

end RecallChat.Yaml
