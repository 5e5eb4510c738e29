import RecallChat.Yaml.Property
import RecallChat.Yaml.Scalar.Block
import RecallChat.Yaml.Scalar.Plain
import RecallChat.Yaml.Scalar.Quoted

/-!
# Layout

Tokens from a text.  Indentation opens and closes blocks.  A key need not be marked: whatever could
be a key is remembered as a candidate, and when a value indicator follows on the same line, close
enough, the `key` token is put before it.

A text that stops being readable at some point still has the tokens before that point.
`TokenStream` therefore holds the trouble beside the tokens, and leaves out those tokens about which
it was not settled yet whether a key comes before them.
-/

namespace RecallChat.Yaml

set_option autoImplicit false

/-- The tokens of a text, and the trouble after them if the text does not end well. -/
structure TokenStream where
  tokens : List Token
  trouble : Option Trouble

/-- A token that may turn out to start a key. -/
structure KeyCandidate where
  /-- The number of tokens before it. -/
  number : Nat
  /-- Whether nothing but a key can stand there. -/
  isRequired : Bool
  offset : Nat
  line : Nat
  column : Nat

/-- What is known at a position of a text. -/
structure Layout where
  cursor : Cursor
  /-- The tokens so far, last first. -/
  tokens : List Token
  /-- The number of flow collections around the position. -/
  flowDepth : Nat
  /-- The column of the innermost block, below zero outside all blocks. -/
  indent : Int
  /-- The columns of the blocks around the innermost one, inner ones first. -/
  outer : List Int
  keyAllowed : Bool
  /-- The candidates by flow depth. -/
  candidates : List (Nat × KeyCandidate)

namespace Layout

/-- The greatest distance between the start of an unmarked key and its value indicator. -/
def keyReach : Nat := 1024

/-- The layout at the start of a text. -/
def start (cs : List Char) : Layout := ⟨.start cs, [], 0, -1, [], true, []⟩

/-- Whether the position is outside all flow collections. -/
def inBlock (layout : Layout) : Bool := layout.flowDepth == 0

/-- The layout with one more token. -/
def push (layout : Layout) (token : Token) : Layout :=
  { layout with tokens := token :: layout.tokens }

/-- The layout with a token put in after the first so many. -/
def insertAt (layout : Layout) (number : Nat) (token : Token) : Layout :=
  let later := layout.tokens.length - number
  { layout with tokens := layout.tokens.take later ++ token :: layout.tokens.drop later }

/-- The layout at another position. -/
def moveTo (layout : Layout) (cursor : Cursor) : Layout := { layout with cursor := cursor }

/-! ## Key candidates -/

/-- Whether a candidate is out of reach. -/
def isStale (layout : Layout) (candidate : KeyCandidate) : Bool :=
  candidate.line != layout.cursor.line || keyReach < layout.cursor.offset - candidate.offset

/-- The layout without candidates that are out of reach; none of those may be required. -/
def dropStale (layout : Layout) : Reading Layout :=
  let (stale, kept) := layout.candidates.partition fun entry => layout.isStale entry.2
  if stale.any fun entry => entry.2.isRequired then .error .malformed
  else .ok { layout with candidates := kept }

/-- The candidate of the present flow depth. -/
def candidate? (layout : Layout) : Option KeyCandidate :=
  (layout.candidates.find? fun entry => entry.1 == layout.flowDepth).map Prod.snd

/-- The layout without the candidate of the present flow depth. -/
def forget (layout : Layout) : Layout :=
  { layout with candidates := layout.candidates.filter fun entry => entry.1 != layout.flowDepth }

/-- The layout without the candidate of the present flow depth, which may not be required. -/
def dropCandidate (layout : Layout) : Reading Layout :=
  match layout.candidate? with
  | some candidate => if candidate.isRequired then .error .malformed else .ok layout.forget
  | none => .ok layout

/-- The layout with the next token as a candidate, where a key is allowed. -/
def saveCandidate (layout : Layout) : Reading Layout := do
  if layout.keyAllowed then
    let layout ← layout.dropCandidate
    let cursor := layout.cursor
    let candidate : KeyCandidate :=
      ⟨layout.tokens.length, layout.inBlock && layout.indent == cursor.column, cursor.offset,
        cursor.line, cursor.column⟩
    return { layout with candidates := layout.candidates ++ [(layout.flowDepth, candidate)] }
  else return layout

/-! ## Blocks -/

/-- The layout after all blocks deeper than a column were closed. -/
def closeBlocks (column : Int) : List Int → Layout → Layout
  | [], layout => layout
  | parent :: rest, layout =>
    if column < layout.indent then
      closeBlocks column rest { layout.push .blockEnd with indent := parent, outer := rest }
    else layout

/-- The layout after the blocks deeper than a column were closed; flow collections have no
indentation. -/
def unwind (layout : Layout) (column : Int) : Layout :=
  if layout.inBlock then closeBlocks column layout.outer layout else layout

/-- The layout with a block opened at a column, if none is open there or deeper. -/
def openBlock (layout : Layout) (column number : Nat) (token : Token) : Layout :=
  if layout.indent < column then
    { layout.insertAt number token with
      indent := column, outer := layout.indent :: layout.outer }
  else layout

/-- The layout with a block opened before the next token. -/
def openBlockHere (layout : Layout) (token : Token) : Layout :=
  layout.openBlock layout.cursor.column layout.tokens.length token

/-! ## Tokens -/

/-- A token of so many characters. -/
def take (layout : Layout) (count : Nat) (token : Token) : Layout :=
  (layout.moveTo (layout.cursor.drop count)).push token

/-- The end of the text. -/
def readEnd (layout : Layout) : Reading Layout := do
  let layout ← (layout.unwind (-1)).dropCandidate
  return { layout with keyAllowed := false, candidates := [] }.push .streamEnd

/-- A directive. -/
def readDirective (layout : Layout) : Reading Layout := do
  let layout ← (layout.unwind (-1)).dropCandidate
  let (token, after) ← layout.cursor.directive
  return ({ layout with keyAllowed := false }.moveTo after).push token

/-- A mark of the start or the end of a document. -/
def readDocumentMark (layout : Layout) (token : Token) : Reading Layout := do
  let layout ← (layout.unwind (-1)).dropCandidate
  return { layout with keyAllowed := false }.take 3 token

/-- The start of a flow collection, which may itself be a key. -/
def readFlowStart (layout : Layout) (token : Token) : Reading Layout := do
  let layout ← layout.saveCandidate
  return { layout with flowDepth := layout.flowDepth + 1, keyAllowed := true }.take 1 token

/-- The end of a flow collection. -/
def readFlowEnd (layout : Layout) (token : Token) : Reading Layout := do
  let layout ← layout.dropCandidate
  return { layout with flowDepth := layout.flowDepth - 1, keyAllowed := false }.take 1 token

/-- A comma between the entries of a flow collection. -/
def readFlowEntry (layout : Layout) : Reading Layout := do
  let layout ← layout.dropCandidate
  return { layout with keyAllowed := true }.take 1 .flowEntry

/-- The layout with a block of the given kind around the next token, where one may start. -/
def inBlockOf (layout : Layout) (token : Token) : Reading Layout :=
  if !layout.inBlock then .ok layout
  else if layout.keyAllowed then .ok (layout.openBlockHere token)
  else .error .malformed

/-- The dash of an entry. -/
def readBlockEntry (layout : Layout) : Reading Layout := do
  let layout ← (← layout.inBlockOf .blockSequenceStart).dropCandidate
  return { layout with keyAllowed := true }.take 1 .blockEntry

/-- The mark of a key. -/
def readKey (layout : Layout) : Reading Layout := do
  let layout ← (← layout.inBlockOf .blockMappingStart).dropCandidate
  return { layout with keyAllowed := layout.inBlock }.take 1 .key

/-- A value indicator: what comes before it is a key, if it is a candidate. -/
def readValue (layout : Layout) : Reading Layout := do
  match layout.candidate? with
  | some candidate =>
    let marked := layout.forget.insertAt candidate.number .key
    let opened :=
      if layout.inBlock then
        marked.openBlock candidate.column candidate.number .blockMappingStart
      else marked
    return { opened with keyAllowed := false }.take 1 .value
  | none =>
    let layout ← (← layout.inBlockOf .blockMappingStart).dropCandidate
    return { layout with keyAllowed := layout.inBlock }.take 1 .value

/-- A token that may be a key, read by its own reader. -/
def readCandidate (layout : Layout) (reader : Cursor → Reading (Token × Cursor)) :
    Reading Layout := do
  let layout ← layout.saveCandidate
  let (token, after) ← reader layout.cursor
  return ({ layout with keyAllowed := false }.moveTo after).push token

/-- A block scalar. -/
def readBlockScalar (layout : Layout) : Reading Layout := do
  let layout ← layout.dropCandidate
  let (text, after) ← layout.cursor.block layout.indent
  return ({ layout with keyAllowed := true }.moveTo after).push (.scalar (.ofString text) false)

/-- A plain scalar; a key may follow it on another line. -/
def readPlain (layout : Layout) : Reading Layout := do
  let layout ← layout.saveCandidate
  let (text, after, isBroken) := layout.cursor.plain (!layout.inBlock) layout.indent
  return ({ layout with keyAllowed := isBroken }.moveTo after).push (.scalar (.ofString text) true)

/-- What a reader reads, as a token. -/
def asToken {α : Type} (make : α → Token) (reader : Cursor → Reading (α × Cursor))
    (cursor : Cursor) : Reading (Token × Cursor) :=
  (reader cursor).map fun (content, after) => (make content, after)

/-- Whether an indicator counts as one here: in a block it does before spacing only. -/
def isIndicator (layout : Layout) : Bool :=
  !layout.inBlock || isSpacing (layout.cursor.ahead 1)

/-- The characters that do not start a plain scalar. -/
def indicators : List Char := "-?:,[]\x7b\x7d#&*!|>'\"%@\x60".toList

/-- Whether a plain scalar starts here. -/
def startsPlain (layout : Layout) : Bool :=
  let c := layout.cursor.next
  (!isSpacing c && !indicators.contains c) ||
    (!isSpacing (layout.cursor.ahead 1) &&
      (c == '-' || (layout.inBlock && (c == '?' || c == ':'))))

/-- The token at the present position. -/
def readToken (layout : Layout) : Reading Layout :=
  let cursor := layout.cursor
  let c := cursor.next
  let atLineStart := cursor.column == 0
  if c = endMark then layout.readEnd
  else if c = '%' ∧ atLineStart then layout.readDirective
  else if atLineStart ∧ cursor.isTriple '-' then layout.readDocumentMark .documentStart
  else if atLineStart ∧ cursor.isTriple '.' then layout.readDocumentMark .documentEnd
  else if c = '[' then layout.readFlowStart .flowSequenceStart
  else if c = '\x7b' then layout.readFlowStart .flowMappingStart
  else if c = ']' then layout.readFlowEnd .flowSequenceEnd
  else if c = '\x7d' then layout.readFlowEnd .flowMappingEnd
  else if c = ',' then layout.readFlowEntry
  else if c = '-' ∧ isSpacing (cursor.ahead 1) then layout.readBlockEntry
  else if c = '?' ∧ layout.isIndicator then layout.readKey
  else if c = ':' ∧ layout.isIndicator then layout.readValue
  else if c = '*' then layout.readCandidate (asToken .alias Cursor.anchorName)
  else if c = '&' then layout.readCandidate (asToken .anchor Cursor.anchorName)
  else if c = '!' then layout.readCandidate Cursor.tag
  else if (c = '|' ∨ c = '>') ∧ layout.inBlock then layout.readBlockScalar
  else if c = '\'' ∨ c = '"' then
    layout.readCandidate (asToken (.scalar · false) Cursor.quoted)
  else if layout.startsPlain then layout.readPlain
  else .error .malformed

/-- The layout after the space before the next token. -/
def toToken (layout : Layout) : Layout :=
  let (cursor, isBroken) := layout.cursor.toToken
  { layout with
    cursor := cursor
    keyAllowed := layout.keyAllowed || (isBroken && layout.inBlock) }

/-- The next token, with the ends of blocks before it. -/
def step (layout : Layout) : Reading Layout := do
  let layout ← layout.toToken.dropStale
  (layout.unwind layout.cursor.column).readToken

/-- The number of tokens before the first candidate. -/
def settled (layout : Layout) : Nat :=
  (layout.candidates.map fun entry => entry.2.number).foldl min layout.tokens.length

/-- The tokens of the rest of the text. -/
def stream : Nat → Layout → TokenStream
  | 0, layout => ⟨layout.tokens.reverse, some .malformed⟩
  | fuel + 1, layout =>
    match layout.dropStale.bind step with
    | .error trouble =>
      let known := (layout.dropStale.toOption.getD layout).settled
      ⟨layout.tokens.reverse.take known, some trouble⟩
    | .ok next =>
      if next.tokens.head? = some .streamEnd then ⟨next.tokens.reverse, none⟩
      else stream fuel next

end Layout

/-- The tokens of a text. -/
def TokenStream.ofText (cs : List Char) : TokenStream :=
  if cs.all isAllowed then (Layout.start cs).stream (cs.length + 1)
  else ⟨[], some .malformed⟩

end RecallChat.Yaml
