import RecallChat.Yaml.Implicit
import RecallChat.Yaml.Layout

/-!
# Grammar

Nodes from tokens, by descent.  Every part of the grammar takes its tokens from the front of a
stream, adds its nodes to a graph and gives back their numbers.  The anchors seen so far are kept
beside the stream; a collection has its number, and with it its anchor, before its content is read.
-/

namespace RecallChat.Yaml

set_option autoImplicit false

/-- The rest of a token stream, with the nodes and the anchors before it. -/
structure GrammarState where
  stream : TokenStream
  graph : Graph
  anchors : List (String × NodeId)
  /-- The number of collections around this place. -/
  depth : Nat

/-- A part of the grammar. -/
abbrev Grammar (α : Type) := StateT GrammarState (Except Trouble) α

namespace Grammar

/-- A text that breaks the grammar. -/
def refuse {α : Type} : Grammar α := throw .malformed

/-- The next token. -/
def peek : Grammar Token := do
  let stream := (← get).stream
  match stream.tokens with
  | token :: _ => return token
  | [] => throw (stream.trouble.getD .malformed)

/-- Leave the next token behind. -/
def skip : Grammar Unit :=
  modify fun state => { state with stream := { state.stream with
    tokens := state.stream.tokens.tail } }

/-- Leave the next token behind if it is the given one. -/
def skipIf (token : Token) : Grammar Bool := do
  if (← peek) = token then
    skip
    return true
  else return false

/-- Leave the next token behind, which has to be the given one. -/
def require (token : Token) : Grammar Unit := do
  if ← skipIf token then return () else refuse

/-! ## Properties -/

/-- The handles that every document has. -/
def standardHandles : List (String × String) := [("!", "!"), ("!!", standardPrefix)]

/-- The meaning of a tag. -/
def meaning (handles : List (String × String)) (handle : Option String) (suffix : String) :
    Grammar String :=
  match handle with
  | none => pure suffix
  | some name =>
    match handles.find? fun entry => entry.1 == name with
    | some entry => pure (entry.2 ++ suffix)
    | none => refuse

/-- What stands before a node. -/
structure Properties where
  anchor : Option String
  tag : Option String

/-- An anchor before a node, if there is one. -/
def anchor? : Grammar (Option String) := do
  match ← peek with
  | .anchor name =>
    skip
    return some name
  | _ => return none

/-- A tag before a node, if there is one. -/
def tag? : Grammar (Option (Option String × String)) := do
  match ← peek with
  | .tag handle suffix =>
    skip
    return some (handle, suffix)
  | _ => return none

/-- An anchor and a tag before a node, in either order. -/
def properties (handles : List (String × String)) : Grammar Properties := do
  let anchor ← anchor?
  let tag ← tag?
  let anchor ← if anchor.isNone && tag.isSome then anchor? else pure anchor
  let tag ← tag.mapM fun (handle, suffix) => meaning handles handle suffix
  return ⟨anchor, tag⟩

/-- The tag of a scalar. -/
def scalarTag (tag : Option String) (text : Text.CodePoints) (isPlain : Bool) : String :=
  match tag with
  | none => if isPlain then implicitTag text else standardTag "str"
  | some "!" => implicitTag text
  | some tag => tag

/-- The tag of a collection. -/
def collectionTag (tag : Option String) (kind : String) : String :=
  match tag with
  | none | some "!" => standardTag kind
  | some tag => tag

/-! ## Anchors -/

/-- The node of an alias. -/
def aliased (name : String) : Grammar NodeId := do
  match (← get).anchors.find? fun entry => entry.1 == name with
  | some entry => return entry.2
  | none => refuse

/-- Add a node with its anchor, which may be used once in a document. -/
def addNode (anchor : Option String) (node : Node) : Grammar NodeId := do
  let state ← get
  let (id, graph) := state.graph.add node
  match anchor with
  | none => set { state with graph := graph }
  | some name =>
    if state.anchors.any fun entry => entry.1 == name then refuse
    else set { state with graph := graph, anchors := (name, id) :: state.anchors }
  return id

/-- Add a collection, whose content is read when it has its number, after the token that opens it.
Every collection around it takes two calls. -/
def addCollection (anchor : Option String) (tag : String) (content : Grammar Content) :
    Grammar NodeId := do
  let id ← addNode anchor ⟨tag, .sequence []⟩
  skip
  let depth := (← get).depth
  if maxCalls < 2 * depth then throw .tooDeep
  modify fun state => { state with depth := depth + 1 }
  let content ← content
  modify fun state => { state with graph := state.graph.setContent id content, depth := depth }
  return id

/-! ## Nodes -/

/-- A place where a node may stand. -/
structure NodePlace where
  /-- Whether block collections may stand there. -/
  inBlock : Bool
  /-- Whether a sequence need not be indented there. -/
  isMappingPart : Bool

/-- The place of a document or an entry of a block sequence. -/
def blockPlace : NodePlace := ⟨true, false⟩

/-- The place of a key or value of a block mapping. -/
def mappingPlace : NodePlace := ⟨true, true⟩

/-- A place inside a flow collection. -/
def flowPlace : NodePlace := ⟨false, false⟩

/-- A node of which only the properties are there. -/
def missing (anchor tag : Option String) : Grammar NodeId :=
  if anchor.isNone && tag.isNone then refuse
  else addNode anchor ⟨scalarTag tag [] true, .scalar []⟩

/-- A node that is not written. -/
def nothing : Grammar NodeId := addNode none .null

mutual
/-- A node. -/
def node (handles : List (String × String)) : Nat → NodePlace → Grammar NodeId
  | 0, _ => refuse
  | fuel + 1, place => do
    match ← peek with
    | .alias name =>
      skip
      aliased name
    | _ =>
      let ⟨anchor, tag⟩ ← properties handles
      let sequence (items : Grammar (List NodeId)) : Grammar NodeId :=
        addCollection anchor (collectionTag tag "seq") (Content.sequence <$> items)
      let mapping (entries : Grammar Entries) : Grammar NodeId :=
        addCollection anchor (collectionTag tag "map") (Content.mapping <$> entries)
      match ← peek with
      | .scalar text isPlain =>
        skip
        addNode anchor ⟨scalarTag tag text isPlain, .scalar text⟩
      | .flowSequenceStart => sequence (flowItems handles fuel true)
      | .flowMappingStart => mapping (flowEntries handles fuel true)
      | .blockEntry =>
        if place.isMappingPart then
          sequence (firstIndentlessItem handles fuel)
        else missing anchor tag
      | .blockSequenceStart =>
        if place.inBlock then sequence (blockItems handles fuel) else missing anchor tag
      | .blockMappingStart =>
        if place.inBlock then mapping (blockEntries handles fuel) else missing anchor tag
      | _ => missing anchor tag

/-- A node, or nothing where one of the given tokens follows. -/
def nodeUnless (handles : List (String × String)) : Nat → NodePlace → List Token → Grammar NodeId
  | 0, _, _ => refuse
  | fuel + 1, place, followers => do
    if followers.contains (← peek) then nothing else node handles fuel place

/-- The entries of a block sequence. -/
def blockItems (handles : List (String × String)) : Nat → Grammar (List NodeId)
  | 0 => refuse
  | fuel + 1 => do
    if ← skipIf .blockEntry then
      let item ← nodeUnless handles fuel blockPlace [.blockEntry, .blockEnd]
      return item :: (← blockItems handles fuel)
    else
      require .blockEnd
      return []

/-- The entries of a sequence that is not indented, after the first dash. -/
def firstIndentlessItem (handles : List (String × String)) : Nat → Grammar (List NodeId)
  | 0 => refuse
  | fuel + 1 => do
    let item ← nodeUnless handles fuel blockPlace [.blockEntry, .key, .value, .blockEnd]
    if ← skipIf .blockEntry then return item :: (← firstIndentlessItem handles fuel)
    else return [item]

/-- The value of an entry, or nothing where there is no value indicator. -/
def valueUnless (handles : List (String × String)) :
    Nat → NodePlace → List Token → Grammar NodeId
  | 0, _, _ => refuse
  | fuel + 1, place, followers => do
    if ← skipIf .value then nodeUnless handles fuel place followers else nothing

/-- The entries of a block mapping. -/
def blockEntries (handles : List (String × String)) : Nat → Grammar Entries
  | 0 => refuse
  | fuel + 1 => do
    if ← skipIf .key then
      let key ← nodeUnless handles fuel mappingPlace [.key, .value, .blockEnd]
      let value ← valueUnless handles fuel mappingPlace [.key, .value, .blockEnd]
      return (key, value) :: (← blockEntries handles fuel)
    else
      require .blockEnd
      return []

/-- The entries of a flow sequence; a key makes an entry a mapping by itself. -/
def flowItems (handles : List (String × String)) : Nat → Bool → Grammar (List NodeId)
  | 0, _ => refuse
  | fuel + 1, isFirst => do
    if ← skipIf .flowSequenceEnd then return []
    else
      if !isFirst then require .flowEntry
      if ← skipIf .flowSequenceEnd then return []
      else
        let item ←
          if (← peek) = .key then
            addCollection none (standardTag "map") do
              let key ← nodeUnless handles fuel flowPlace [.value, .flowEntry, .flowSequenceEnd]
              let value ← valueUnless handles fuel flowPlace [.flowEntry, .flowSequenceEnd]
              return .mapping [(key, value)]
          else node handles fuel flowPlace
        return item :: (← flowItems handles fuel false)

/-- The entries of a flow mapping; a node without a key mark is a key without value. -/
def flowEntries (handles : List (String × String)) :
    Nat → Bool → Grammar Entries
  | 0, _ => refuse
  | fuel + 1, isFirst => do
    if ← skipIf .flowMappingEnd then return []
    else
      if !isFirst then require .flowEntry
      if ← skipIf .flowMappingEnd then return []
      else
        let entry ←
          if ← skipIf .key then
            let key ← nodeUnless handles fuel flowPlace [.value, .flowEntry, .flowMappingEnd]
            let value ← valueUnless handles fuel flowPlace [.flowEntry, .flowMappingEnd]
            pure (key, value)
          else pure (← node handles fuel flowPlace, ← nothing)
        return entry :: (← flowEntries handles fuel false)
end

/-! ## Documents -/

/-- What the directives before a document say: whether they name a version, and their handles. -/
def directives : Nat → Bool → List (String × String) → Grammar (List (String × String))
  | 0, _, _ => refuse
  | fuel + 1, hasVersion, handles => do
    match ← peek with
    | .directive directive =>
      skip
      match directive with
      | .version major _ =>
        if hasVersion || major != 1 then refuse else directives fuel true handles
      | .handle name meaning =>
        if (handles.map Prod.fst).contains name then refuse
        else directives fuel hasVersion ((name, meaning) :: handles)
      | .other => directives fuel hasVersion handles
    | _ => return handles ++ standardHandles

/-- Leave marks of the end of a document behind. -/
def skipEnds : Nat → Grammar Unit
  | 0 => refuse
  | fuel + 1 => do if ← skipIf .documentEnd then skipEnds fuel

/-- The end of the stream, before which there may be marks of the end of a document only. -/
def streamEnd (fuel : Nat) : Grammar Unit := do
  skipEnds fuel
  if (← peek) = .streamEnd then return ()
  else
    let _ ← directives fuel false []
    let _ ← peek
    refuse

/-- Whether a token can only stand outside the content of a document. -/
def isOutside : Token → Bool
  | .directive _ | .documentStart | .documentEnd | .streamEnd => true
  | _ => false

/-- The only document of a stream, if there is any. -/
def document (fuel : Nat) : Grammar (Option NodeId) := do
  let first ← peek
  if first = .streamEnd then return none
  else
    let root ←
      if first matches .directive _ || first = .documentStart then do
        let handles ← directives fuel false []
        require .documentStart
        if isOutside (← peek) then nothing else node handles fuel blockPlace
      else node standardHandles fuel blockPlace
    streamEnd fuel
    return some root

end Grammar

/-- A document: its nodes, and the number of the outermost one. -/
structure Document where
  graph : Graph
  root : NodeId

/-- The only document of a text, if there is any. -/
def Document.ofText (cs : List Char) : Reading (Option Document) :=
  let stream := TokenStream.ofText cs
  let fuel := 4 * stream.tokens.length + 8
  ((Grammar.document fuel).run ⟨stream, .empty, [], 0⟩).map fun (root, state) =>
    root.map fun id => ⟨state.graph, id⟩

end RecallChat.Yaml
