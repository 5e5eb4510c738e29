import RecallChat.Json.Reader
import RecallChat.Text.Digit
import RecallChat.Yaml.Cursor
import RecallChat.Yaml.Token

/-!
# Anchors, tags and directives

The tokens that say something about other tokens.  Each reader starts at the character that
introduces its token and gives back the position after it.
-/

namespace RecallChat.Yaml

set_option autoImplicit false

namespace Cursor

/-- A word of at least one character. -/
def word (cursor : Cursor) : Reading (String × Cursor) :=
  match cursor.span isWordChar with
  | ([], _) => .error .malformed
  | (run, after) => .ok (String.ofList run, after)

/-! ## Anchors -/

/-- Whether a character may follow the name of an anchor. -/
def endsAnchor (c : Char) : Bool := isSpacing c || "?:,]\x7d%@\x60".toList.contains c

/-- The name of an anchor or alias after its indicator. -/
def anchorName (cursor : Cursor) : Reading (String × Cursor) := do
  let (name, after) ← cursor.advance.word
  after.expect endsAnchor
  return (name, after)

/-! ## Tags -/

/-- Whether a character can stand for itself in a tag. -/
def isTagChar (c : Char) : Bool := c.isAlphanum || "-;/?:@&=+$,_.!~*'()[]".toList.contains c

/-- Bytes written as percent signs with two hexadecimal digits each. -/
def escapedBytes : List Char → Reading (List UInt8)
  | '%' :: a :: b :: rest =>
    match Json.hexValue? [a, b] with
    | some byte => (escapedBytes rest).map (UInt8.ofNat byte :: ·)
    | none => .error .malformed
  | '%' :: _ => .error .malformed
  | _ => .ok []

/-- The text of a tag; a run of escaped bytes has to be a text by itself. -/
def tagText : Nat → Cursor → Reading (List Char × Cursor)
  | 0, cursor => .ok ([], cursor)
  | fuel + 1, cursor =>
    match cursor.next with
    | '%' => do
      let bytes ← escapedBytes cursor.rest
      match String.fromUTF8? ⟨bytes.toArray⟩ with
      | none => .error .malformed
      | some text =>
        let (more, after) ← tagText fuel (cursor.drop (3 * bytes.length))
        return (text.toList ++ more, after)
    | c =>
      if isTagChar c then do
        let (more, after) ← tagText fuel cursor.advance
        return (c :: more, after)
      else .ok ([], cursor)

/-- The text of a tag, which may not be missing. -/
def tagUri (cursor : Cursor) : Reading (String × Cursor) := do
  if isTagChar cursor.next || cursor.next == '%' then
    let (text, after) ← tagText (cursor.rest.length + 1) cursor
    return (String.ofList text, after)
  else .error .malformed

/-- A handle: an exclamation mark by itself, or a word between two of them. -/
def handle (cursor : Cursor) : Reading (String × Cursor) := do
  cursor.expect (· == '!')
  let inner := cursor.advance
  if inner.next = ' ' then return ("!", inner)
  else
    let (name, after) := inner.span isWordChar
    after.expect (· == '!')
    return (String.ofList ('!' :: name ++ ['!']), after.advance)

/-- Whether a tag has a second exclamation mark, which makes its beginning a handle. -/
def hasHandle (cs : List Char) : Bool := (cs.takeWhile (!isGap ·)).contains '!'

/-- The handle and the suffix of a tag; a tag without handle is complete. -/
def tagParts (cursor : Cursor) : Reading (Option String × String × Cursor) := do
  let c := cursor.ahead 1
  if c = '<' then
    let (text, after) ← (cursor.drop 2).tagUri
    after.expect (· == '>')
    return (none, text, after.advance)
  else if isSpacing c then return (none, "!", cursor.advance)
  else if hasHandle (cursor.rest.drop 1) then
    let (handle, after) ← cursor.handle
    let (suffix, after) ← after.tagUri
    return (some handle, suffix, after)
  else
    let (suffix, after) ← cursor.advance.tagUri
    return (some "!", suffix, after)

/-- A tag. -/
def tag (cursor : Cursor) : Reading (Token × Cursor) := do
  let (handle, suffix, after) ← cursor.tagParts
  after.expect isGap
  return (.tag handle suffix, after)

/-! ## Directives -/

/-- A number of a version. -/
def versionNumber (cursor : Cursor) : Reading (Nat × Cursor) := do
  let (digits, after) := cursor.span Char.isDigit
  if digits.isEmpty then .error .malformed
  else if Text.maxDigits < digits.length then .error (.fault (.wrongValue "number too long"))
  else return (digits.foldl (fun value digit => value * 10 + (digit.toNat - 48)) 0, after)

/-- The numbers of a version. -/
def version (cursor : Cursor) : Reading (Directive × Cursor) := do
  let (major, after) ← (cursor.skip (· == ' ')).versionNumber
  after.expect (· == '.')
  let (minor, after) ← after.advance.versionNumber
  after.expect isGap
  return (.version major minor, after)

/-- A handle and its meaning. -/
def handleMeaning (cursor : Cursor) : Reading (Directive × Cursor) := do
  let (handle, after) ← (cursor.skip (· == ' ')).handle
  after.expect (· == ' ')
  let (meaning, after) ← (after.skip (· == ' ')).tagUri
  after.expect isGap
  return (.handle handle meaning, after)

/-- A directive after its percent sign. -/
def directive (cursor : Cursor) : Reading (Token × Cursor) := do
  let (name, after) ← cursor.advance.word
  after.expect isGap
  let (directive, after) ←
    if name = "YAML" then after.version
    else if name = "TAG" then after.handleMeaning
    else pure (.other, after.skip (!isLineEnd ·))
  return (.directive directive, ← after.endLine)

end Cursor

end RecallChat.Yaml
