import RecallChat.Fault

/-!
# Reading position in a YAML text

A cursor holds the characters still to be read with their offset, line and column, because layout
is part of the language.  The end of the text shows as the character `endMark`, which no valid text
holds.  Line breaks are the line feed and the next-line control, which count as the same, and the
two Unicode separators, which are kept as they are.
-/

namespace RecallChat.Yaml

set_option autoImplicit false

/-- Why a text is not read: it is no YAML, or something in it is a fault of its own. -/
inductive Trouble where
  | malformed
  | fault (fault : Fault)

/-- How many calls may stand inside each other while a document is read.  The caller takes some of
them as well, so the true bound lies near this number. -/
def maxCalls : Nat := 960

/-- Calls that stand too deep inside each other. -/
def Trouble.tooDeep : Trouble := .fault (.outside .endlessNesting "nested too deep")

/-- What is read from a text. -/
abbrev Reading (α : Type) := Except Trouble α

/-! ## Characters -/

/-- What shows at the end of a text. -/
def endMark : Char := '\x00'

/-- Whether a character ends a line. -/
def isBreak (c : Char) : Bool := c == '\n' || c == '\u0085' || c == '\u2028' || c == '\u2029'

/-- Whether a line ends here. -/
def isLineEnd (c : Char) : Bool := c == endMark || isBreak c

/-- Whether a character is a space or the end of a line. -/
def isGap (c : Char) : Bool := c == ' ' || isLineEnd c

/-- Whether a character is a space, a tab or the end of a line. -/
def isSpacing (c : Char) : Bool := c == '\t' || isGap c

/-- Whether a character can stand in the name of an anchor, a handle or a directive. -/
def isWordChar (c : Char) : Bool := c.isAlphanum || c == '-' || c == '_'

/-- Whether a character may stand in a YAML text at all. -/
def isAllowed (c : Char) : Bool :=
  let code := c.toNat
  code == 0x9 || code == 0xa || code == 0xd || (0x20 ≤ code && code ≤ 0x7e) || code == 0x85 ||
    (0xa0 ≤ code && code ≤ 0xd7ff) || (0xe000 ≤ code && code ≤ 0xfffd) || 0x10000 ≤ code

/-! ## Cursors -/

/-- A reading position. -/
structure Cursor where
  rest : List Char
  offset : Nat
  line : Nat
  column : Nat

namespace Cursor

/-- The start of a text. -/
def start (cs : List Char) : Cursor := ⟨cs, 0, 0, 0⟩

/-- The character that is so many places ahead. -/
def ahead (cursor : Cursor) (count : Nat) : Char := (cursor.rest[count]?).getD endMark

/-- The character to be read next. -/
def next (cursor : Cursor) : Char := cursor.rest.head?.getD endMark

/-- The position after the next character.  A byte order mark takes no column. -/
def advance (cursor : Cursor) : Cursor :=
  match cursor.rest with
  | [] => cursor
  | c :: rest =>
    if isBreak c then ⟨rest, cursor.offset + 1, cursor.line + 1, 0⟩
    else
      ⟨rest, cursor.offset + 1, cursor.line,
        if c = '\ufeff' then cursor.column else cursor.column + 1⟩

/-- The position after so many characters. -/
def drop (cursor : Cursor) : Nat → Cursor
  | 0 => cursor
  | count + 1 => cursor.advance.drop count

/-- The longest run of characters of a class, and the position after it. -/
def span (cursor : Cursor) (p : Char → Bool) : List Char × Cursor :=
  let run := cursor.rest.takeWhile p
  (run, cursor.drop run.length)

/-- The position after the longest run of characters of a class. -/
def skip (cursor : Cursor) (p : Char → Bool) : Cursor := (cursor.span p).2

/-- The position after a line break, with the break as it is kept; nothing where there is none. -/
def lineBreak (cursor : Cursor) : List Char × Cursor :=
  let c := cursor.next
  if c = '\n' ∨ c = '\u0085' then (['\n'], cursor.advance)
  else if c = '\u2028' ∨ c = '\u2029' then ([c], cursor.advance)
  else ([], cursor)

/-- Whether three of the given character stand here, with spacing after them. -/
def isTriple (cursor : Cursor) (c : Char) : Bool :=
  cursor.rest.take 3 == [c, c, c] && isSpacing (cursor.ahead 3)

/-- Whether a mark of the start or the end of a document stands here. -/
def isDocumentMark (cursor : Cursor) : Bool := cursor.isTriple '-' || cursor.isTriple '.'

/-- The position after a character that has to stand here. -/
def expect (cursor : Cursor) (p : Char → Bool) : Reading Unit :=
  if p cursor.next then .ok () else .error .malformed

/-- The rest of a line that may hold only spaces and a comment. -/
def endLine (cursor : Cursor) : Reading Cursor :=
  let spaced := cursor.skip (· == ' ')
  let after := if spaced.next = '#' then spaced.skip (!isLineEnd ·) else spaced
  if isLineEnd after.next then .ok after.lineBreak.2 else .error .malformed

end Cursor

/-! ## Space between tokens -/

/-- The number of characters of spaces, breaks and comments at the front, and whether there is a
break among them. -/
def blankRun : Bool → List Char → Nat × Bool
  | _, [] => (0, false)
  | inComment, c :: rest =>
    if isBreak c then ((blankRun false rest).1 + 1, true)
    else if inComment || c == '#' then
      let (count, broken) := blankRun true rest
      (count + 1, broken)
    else if c = ' ' then
      let (count, broken) := blankRun false rest
      (count + 1, broken)
    else (0, false)

/-- The position of the next token, and whether it is on another line.  A byte order mark is
skipped at the start of the text. -/
def Cursor.toToken (cursor : Cursor) : Cursor × Bool :=
  let cursor :=
    if cursor.offset = 0 ∧ cursor.next = '\ufeff' then cursor.advance else cursor
  let (count, broken) := blankRun false cursor.rest
  (cursor.drop count, broken)

end RecallChat.Yaml
