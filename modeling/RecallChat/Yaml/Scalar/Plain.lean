import RecallChat.Yaml.Cursor

/-!
# Plain scalars

A scalar without quotes ends where something else may begin: at a comment, at a value indicator,
at the indicators of the flow collection around it, or at a line that is not indented enough.
Inside, breaks are folded as in quoted scalars.
-/

namespace RecallChat.Yaml

set_option autoImplicit false

namespace Cursor

/-- Whether a character ends a plain scalar inside a flow collection. -/
def endsFlowText (c : Char) : Bool := ",?[]\x7b\x7d".toList.contains c

/-- Whether a character after a colon makes the colon a value indicator. -/
def endsKey (inFlow : Bool) (c : Char) : Bool :=
  isSpacing c || (inFlow && ",[]\x7b\x7d".toList.contains c)

/-- The number of characters up to the next space or the end of a plain scalar. -/
def plainRun (inFlow : Bool) : List Char → Nat
  | [] => 0
  | c :: rest =>
    if isSpacing c then 0
    else if c = ':' && endsKey inFlow (rest.head?.getD endMark) then 0
    else if inFlow && endsFlowText c then 0
    else plainRun inFlow rest + 1

/-- Empty lines inside a plain scalar, as they are kept, and the position of the text after them;
none where a line starts with a document mark. -/
def plainLines : Nat → Cursor → Option (List Char) × Cursor
  | 0, cursor => (none, cursor)
  | fuel + 1, cursor =>
    if cursor.next = ' ' then plainLines fuel cursor.advance
    else if isBreak cursor.next then
      let (kept, after) := cursor.lineBreak
      if after.isDocumentMark then (none, after)
      else
        let (more, after) := plainLines fuel after
        (more.map (kept ++ ·), after)
    else (some [], cursor)

/-- The space inside a plain scalar. -/
structure PlainSpace where
  /-- What stands for it in the text, nothing where the scalar ends. -/
  text : List Char
  after : Cursor
  /-- Whether a line ended in it. -/
  isBroken : Bool

/-- Space at this position, folded. -/
def plainSpace (cursor : Cursor) : PlainSpace :=
  let (blanks, after) := cursor.span (· == ' ')
  if isBreak after.next then
    let (kept, line) := after.lineBreak
    if line.isDocumentMark then ⟨[], line, true⟩
    else
      match plainLines (line.rest.length + 1) line with
      | (none, text) => ⟨[], text, true⟩
      | (some breaks, text) =>
        let folded := if kept != ['\n'] then kept else if breaks.isEmpty then [' '] else []
        ⟨folded ++ breaks, text, true⟩
  else ⟨blanks, after, false⟩

/-- The text of a plain scalar, the position after it, and whether the last space ended a line. -/
def plainText (inFlow : Bool) (indent : Int) :
    Nat → List Char → Bool → Cursor → List Char × Cursor × Bool
  | 0, _, isBroken, cursor => ([], cursor, isBroken)
  | fuel + 1, space, isBroken, cursor =>
    let count := plainRun inFlow cursor.rest
    if cursor.next = '#' ∨ count = 0 then ([], cursor, isBroken)
    else
      let run := cursor.rest.take count
      let gap := (cursor.drop count).plainSpace
      if gap.text.isEmpty || gap.after.next == '#' || (!inFlow && gap.after.column < indent) then
        (space ++ run, gap.after, gap.isBroken)
      else
        let (more, after, isBroken) := plainText inFlow indent fuel gap.text gap.isBroken gap.after
        (space ++ run ++ more, after, isBroken)

/-- A plain scalar below the given indentation, and whether a line ended after it. -/
def plain (cursor : Cursor) (inFlow : Bool) (parent : Int) : String × Cursor × Bool :=
  let (text, after, isBroken) :=
    plainText inFlow (parent + 1) (cursor.rest.length + 1) [] false cursor
  (String.ofList text, after, isBroken)

end Cursor

end RecallChat.Yaml
