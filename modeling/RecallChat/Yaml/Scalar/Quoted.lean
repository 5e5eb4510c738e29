import RecallChat.Power
import RecallChat.Json.Reader
import RecallChat.Yaml.Cursor

/-!
# Quoted scalars

A scalar in single quotes, where a quote is written twice, or in double quotes, where a backslash
introduces an escape.  A line break inside is folded: one break is a space, and every further one is
kept.
-/

namespace RecallChat.Yaml.Cursor

set_option autoImplicit false

/-- Whether a character is a space or a tab. -/
def isBlankChar (c : Char) : Bool := c == ' ' || c == '\t'

/-- Empty lines inside a quoted scalar, as they are kept, and the position after the indentation of
the line that follows.  A line may not start with a document mark. -/
def emptyLines : Nat → Cursor → Reading (List Char × Cursor)
  | 0, _ => .error .malformed
  | fuel + 1, cursor =>
    if cursor.isDocumentMark then .error .malformed
    else
      let text := cursor.skip isBlankChar
      if isBreak text.next then do
        let (kept, after) := text.lineBreak
        let (more, after) ← emptyLines fuel after
        return (kept ++ more, after)
      else .ok ([], text)

/-- A line break inside a quoted scalar with the empty lines after it, folded. -/
def foldedBreak (cursor : Cursor) : Reading (List Char × Cursor) := do
  let (kept, after) := cursor.lineBreak
  let (more, after) ← after.emptyLines (after.rest.length + 1)
  let folded := if kept != ['\n'] then kept else if more.isEmpty then [' '] else []
  return (folded ++ more, after)

/-! ## Escapes -/

/-- The escapes of one letter, with what they stand for. -/
def letterEscapes : List (Char × Char) :=
  [('0', '\x00'), ('a', '\x07'), ('b', '\x08'), ('t', '\t'), ('\t', '\t'), ('n', '\n'),
    ('v', '\x0b'), ('f', '\x0c'), ('r', '\r'), ('e', '\x1b'), (' ', ' '), ('"', '"'),
    ('\\', '\\'), ('/', '/'), ('N', '\u0085'), ('_', '\u00a0'), ('L', '\u2028'), ('P', '\u2029')]

/-- The escapes by number, with their digits. -/
def numberEscapes : List (Char × Nat) := [('x', 2), ('u', 4), ('U', 8)]

/-- A code point by its number: there is none beyond the last one.  A surrogate is a code point. -/
def pointOfCode (code : Nat) : Reading Nat :=
  if code < 0x110000 then .ok code
  else if code < 2 ^ 31 then .error (.fault (.wrongValue "no such character"))
  else .error (.fault (.tooLarge "no such character"))

/-- An escape after its backslash. -/
def escape (cursor : Cursor) : Reading (Text.CodePoints × Cursor) :=
  let c := cursor.next
  match letterEscapes.find? fun entry => entry.1 == c with
  | some entry => .ok ([entry.2.toNat], cursor.advance)
  | none =>
    match numberEscapes.find? fun entry => entry.1 == c with
    | some (_, count) => do
      let digits := cursor.advance.rest.take count
      match Json.hexValue? digits with
      | none => .error .malformed
      | some code =>
        if digits.length < count then .error .malformed
        else return ([← pointOfCode code], cursor.drop (count + 1))
    | none =>
      if isBreak c then do
        let after := cursor.lineBreak.2
        let (kept, after) ← after.emptyLines (after.rest.length + 1)
        return (kept.map Char.toNat, after)
      else .error .malformed

/-! ## Scalars -/

/-- Characters as code points. -/
def pointsOf (read : List Char × Cursor) : Text.CodePoints × Cursor :=
  (read.1.map Char.toNat, read.2)

/-- The text up to the closing quote, and the position after it. -/
def quotedText (quote : Char) : Nat → Cursor → Reading (Text.CodePoints × Cursor)
  | 0, _ => .error .malformed
  | fuel + 1, cursor => do
    let c := cursor.next
    let step : Option (Text.CodePoints × Cursor) ←
      if c = endMark then .error .malformed
      else if c = quote then
        if quote = '\'' ∧ cursor.ahead 1 = quote then pure (some ([quote.toNat], cursor.drop 2))
        else pure none
      else if quote = '"' ∧ c = '\\' then some <$> cursor.advance.escape
      else if isBlankChar c then
        let (blanks, after) := cursor.span isBlankChar
        if isBreak after.next then (some ∘ pointsOf) <$> after.foldedBreak
        else pure (some (pointsOf (blanks, after)))
      else if isBreak c then (some ∘ pointsOf) <$> cursor.foldedBreak
      else pure (some ([c.toNat], cursor.advance))
    match step with
    | none => return ([], cursor.advance)
    | some (text, after) =>
      let (more, after) ← quotedText quote fuel after
      return (text ++ more, after)

/-- A quoted scalar. -/
def quoted (cursor : Cursor) : Reading (Text.CodePoints × Cursor) :=
  quotedText cursor.next (cursor.rest.length + 1) cursor.advance

end RecallChat.Yaml.Cursor
