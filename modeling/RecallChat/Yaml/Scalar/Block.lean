import RecallChat.Yaml.Cursor

/-!
# Block scalars

A scalar that is set off by its indentation.  Its header says whether lines are folded, how final
line breaks are treated, and, if it is not left to the text, how deep the indentation is.
-/

namespace RecallChat.Yaml

set_option autoImplicit false

/-- What is done with the line breaks at the end of a block scalar. -/
inductive Chomping where
  | clip
  | strip
  | keep
  deriving DecidableEq, Repr

namespace Cursor

/-- A sign that tells the chomping. -/
def chomping? (c : Char) : Option Chomping :=
  if c = '+' then some .keep else if c = '-' then some .strip else none

/-- A digit that tells the indentation. -/
def depthDigit? (c : Char) : Option Nat := if c.isDigit then some (c.toNat - 48) else none

/-- The chomping and the indentation of a header, in either order. -/
def blockHeader (cursor : Cursor) : Reading (Chomping × Option Nat × Cursor) := do
  let (chomping, depth, after) :=
    match chomping? cursor.next with
    | some chomping =>
      match depthDigit? cursor.advance.next with
      | some depth => (chomping, some depth, cursor.drop 2)
      | none => (chomping, none, cursor.advance)
    | none =>
      match depthDigit? cursor.next with
      | some depth =>
        match chomping? cursor.advance.next with
        | some chomping => (chomping, some depth, cursor.drop 2)
        | none => (.clip, some depth, cursor.advance)
      | none => (.clip, none, cursor)
  after.expect isGap
  if depth = some 0 then .error .malformed
  else return (chomping, depth, ← after.endLine)

/-- Empty lines before the text, as they are kept, the deepest column in them, and the position
after them. -/
def leadingLines : Nat → Nat → Cursor → List Char × Nat × Cursor
  | 0, deepest, cursor => ([], deepest, cursor)
  | fuel + 1, deepest, cursor =>
    if cursor.next = ' ' then
      let after := cursor.advance
      leadingLines fuel (max deepest after.column) after
    else if isBreak cursor.next then
      let (kept, after) := cursor.lineBreak
      let (more, deepest, after) := leadingLines fuel deepest after
      (kept ++ more, deepest, after)
    else ([], deepest, cursor)

/-- The position after indentation up to a column. -/
def indentTo (indent : Nat) : Nat → Cursor → Cursor
  | 0, cursor => cursor
  | fuel + 1, cursor =>
    if cursor.column < indent ∧ cursor.next = ' ' then indentTo indent fuel cursor.advance
    else cursor

/-- Empty lines, as they are kept, and the position after the indentation of the next line. -/
def innerLines (indent : Nat) : Nat → Cursor → List Char × Cursor
  | 0, cursor => ([], cursor)
  | fuel + 1, cursor =>
    let text := indentTo indent (indent + 1) cursor
    if isBreak text.next then
      let (kept, after) := text.lineBreak
      let (more, after) := innerLines indent fuel after
      (kept ++ more, after)
    else ([], text)

/-- Whether another line of the scalar starts here. -/
def continues (indent : Nat) (cursor : Cursor) : Bool :=
  cursor.column == indent && cursor.next != endMark

/-- What stands between two lines of a block scalar: folding replaces a single break between two
lines that do not start with space, and drops the first of several. -/
def between (isFolded : Bool) (kept breaks : List Char) (first next : Char) : List Char :=
  let isBlankStart (c : Char) : Bool := c == ' ' || c == '\t'
  if isFolded && kept == ['\n'] && !isBlankStart first && !isBlankStart next then
    if breaks.isEmpty then [' '] else []
  else kept

/-- The lines of a block scalar, the last line break, the empty lines after it, and the position
after them. -/
def blockLines (isFolded : Bool) (indent : Nat) :
    Nat → Cursor → List Char × List Char × List Char × Cursor
  | 0, cursor => ([], [], [], cursor)
  | fuel + 1, cursor =>
    let (line, after) := cursor.span (!isLineEnd ·)
    let (kept, after) := after.lineBreak
    let (breaks, after) := innerLines indent (after.rest.length + 1) after
    if continues indent after then
      let (more, lastBreak, lastLines, final) := blockLines isFolded indent fuel after
      (line ++ between isFolded kept breaks cursor.next after.next ++ breaks ++ more, lastBreak,
        lastLines, final)
    else (line, kept, breaks, after)

/-- A block scalar below the given indentation. -/
def block (cursor : Cursor) (parent : Int) : Reading (String × Cursor) := do
  let isFolded := cursor.next == '>'
  let (chomping, depth, body) ← cursor.advance.blockHeader
  let least := (max (parent + 1) 1).toNat
  let fuel := body.rest.length + 1
  let (leading, indent, text) :=
    match depth with
    | some depth =>
      let indent := least + depth - 1
      let (leading, text) := innerLines indent fuel body
      (leading, indent, text)
    | none =>
      let (leading, deepest, text) := leadingLines fuel 0 body
      (leading, max least deepest, text)
  let (lines, lastBreak, lastLines, after) :=
    if continues indent text then
      let (lines, lastBreak, lastLines, after) := blockLines isFolded indent fuel text
      (leading ++ lines, lastBreak, lastLines, after)
    else ([], [], leading, text)
  let ending := match chomping with
    | .clip => lastBreak
    | .strip => []
    | .keep => lastBreak ++ lastLines
  return (String.ofList (lines ++ ending), after)

end Cursor

end RecallChat.Yaml
