import RecallChat.Text.Casing
import RecallChat.Yaml.Grammar
import RecallChat.Yaml.Merge
import RecallChat.Yaml.Scalar.Binary
import RecallChat.Yaml.Scalar.Number
import RecallChat.Yaml.Scalar.Timestamp

/-!
# Building values

Every node is built once, wherever it stands.  A scalar is given its value at once; a collection is
announced first and filled later, first come, first served, so a collection can hold itself and the
troubles of an outer level count before those further in.  A collection that is not a scalar cannot
be a key, whether it is filled or not.
-/

namespace RecallChat.Yaml

set_option autoImplicit false

/-! ## Scalars -/

/-- Truth values by name. -/
def truthNames : List (String × Bool) :=
  [("yes", true), ("no", false), ("true", true), ("false", false), ("on", true), ("off", false)]

/-- The kinds that are written as scalars. -/
def scalarKinds : List String := ["null", "bool", "int", "float", "binary", "timestamp", "str"]

/-- The kinds of collections. -/
def collectionKinds : List String := ["seq", "map", "set", "omap", "pairs"]

/-- The text of a node that should be a scalar; a mapping has the text of its entry `=`, by one more
call. -/
def scalarText (graph : Graph) : Nat → NodeId → Reading Text.CodePoints
  | 0, _ => .error .tooDeep
  | calls + 1, id =>
    match graph.content id with
    | .scalar text => .ok text
    | .sequence _ => .error .malformed
    | .mapping entries =>
      match entries.find? fun entry => (graph.node entry.1).isKind "value" with
      | some entry => scalarText graph calls entry.2
      | none => .error .malformed

/-- The value of a truth name. -/
def truthValue (text : Text.CodePoints) : Reading Value :=
  let name := text.lowered
  match truthNames.find? fun entry => .ofString entry.1 == name with
  | some entry => .ok (.boolean entry.2)
  | none => .error (.fault (.outside .missingKey name.quoted))

/-- The value of a scalar of a kind other than truth values and texts, by its characters; the
replacement character, which no such scalar has, stands for a surrogate. -/
def characterValue (kind : String) (text : List Char) : Reading Value :=
  match kind with
  | "int" => (wholeNumber text).map Value.integer
  | "float" => (pointNumber text).map Value.real
  | "binary" => (binary text).map Value.bytes
  | "timestamp" => timestamp text
  | _ => .ok .null

/-- The value of a scalar of a kind. -/
def scalarValue (kind : String) (text : Text.CodePoints) : Reading Value :=
  match kind with
  | "bool" => truthValue text
  | "str" => .ok (.ofPoints text)
  | kind => characterValue kind (text.map Text.CodePoints.character)

/-- Whether a number that is none is written by the name of that value.  All of these are one and
the same key, while every other such number is a key of its own. -/
def isNamedNaN (text : Text.CodePoints) : Bool :=
  (unsignedScalar (text.map Text.CodePoints.character)).2.map Char.toLower == ".nan".toList

/-! ## What is built of a node -/

/-- What was built of a node.  Collections refer to their parts by number. -/
inductive Built where
  | scalar (value : Value) (isNamedNaN : Bool)
  /-- A collection that is not filled yet. -/
  | announced
  | list (items : List NodeId)
  | pairs (entries : Entries)
  | set (keys : List NodeId)
  | map (entries : Entries)

/-- A document whose nodes are being built. -/
structure Workshop where
  graph : Graph
  built : Array (Option Built)
  /-- The collections that are to be filled, the last one first. -/
  waiting : List NodeId
  /-- More than the number of merge keys that there are. -/
  mergeBound : Nat

/-- A step of building. -/
abbrev Building (α : Type) := StateT Workshop (Except Trouble) α

namespace Building

/-- What was built of a node. -/
def built? (id : NodeId) : Building (Option Built) := do return ((← get).built[id]?).join

/-- Notes what was built of a node. -/
def note (id : NodeId) (built : Built) : Building Unit :=
  modify fun shop => { shop with built := shop.built.setIfInBounds id (some built) }

/-- The value of a node of a scalar kind. -/
def scalar (kind : String) (id : NodeId) : Building Built := do
  let graph := (← get).graph
  let text ← scalarText graph maxCalls id
  if kind == "timestamp" && !(graph.content id matches .scalar _) then
    throw (.fault (.wrongType "a point in time is written as a scalar"))
  return .scalar (← scalarValue kind text) (kind == "float" && isNamedNaN text)

/-- Builds a node, unless it was built before. -/
def visit (id : NodeId) : Building Unit := do
  if (← built? id).isNone then
    match ((← get).graph.node id).kind? with
    | none => throw .malformed
    | some kind =>
      if scalarKinds.contains kind then note id (← scalar kind id)
      else if collectionKinds.contains kind then
        note id .announced
        modify fun shop => { shop with waiting := id :: shop.waiting }
      else throw .malformed

/-- Whether two nodes are the same key: the same node, or scalars of the same value. -/
def isSameKey (a b : NodeId) : Building Bool := do
  match ← built? a, ← built? b with
  | some (.scalar x isNamedX), some (.scalar y isNamedY) =>
    match x, y with
    | .real p, .real q =>
      return a == b || if p.isNaN && q.isNaN then isNamedX && isNamedY else x.sameKey y
    | _, _ => return x.sameKey y
  | _, _ => return a == b

/-- Entries with one more: a known key keeps its place and its node. -/
def putEntry (key value : NodeId) : Entries → Building Entries
  | [] => return [(key, value)]
  | entry :: rest => do
    if ← isSameKey entry.1 key then return (entry.1, value) :: rest
    else return entry :: (← putEntry key value rest)

/-- The entries of a mapping, built one after the other. -/
def mapEntries : Entries → Entries → Building Entries
  | done, [] => return done
  | done, (key, value) :: rest => do
    visit key
    match ← built? key with
    | some (.scalar ..) =>
      visit value
      mapEntries (← putEntry key value done) rest
    | _ => throw .malformed

/-- The entries of a node that should be a mapping, after merging. -/
def mapping (id : NodeId) : Building Entries := do
  let shop ← get
  match shop.graph.content id with
  | .mapping _ =>
    let (_, graph) ← (Merging.flatten (4 * shop.mergeBound) 0 id).run shop.graph
    set { shop with graph := graph }
    mapEntries [] (graph.entries id)
  | _ => throw .malformed

/-- The items of a node that should be a sequence. -/
def sequence (id : NodeId) : Building (List NodeId) := do
  match (← get).graph.content id with
  | .sequence items => return items
  | _ => throw .malformed

/-- The only entry of a node that should be a mapping with one entry. -/
def pair (id : NodeId) : Building (NodeId × NodeId) := do
  match (← get).graph.content id with
  | .mapping [(key, value)] =>
    visit key
    visit value
    return (key, value)
  | _ => throw .malformed

/-- Fills a collection. -/
def fill (id : NodeId) : Building Unit := do
  match ((← get).graph.node id).kind? with
  | some "seq" =>
    let items ← sequence id
    items.forM visit
    note id (.list items)
  | some "map" => note id (.map (← mapping id))
  | some "set" => note id (.set ((← mapping id).map Prod.fst))
  | _ => note id (.pairs (← (← sequence id).mapM pair))

/-- Fills all collections that are waiting, and those that are announced meanwhile. -/
def fillAll : Nat → Building Unit
  | 0 => throw .malformed
  | fuel + 1 => do
    let waiting := (← get).waiting.reverse
    if !waiting.isEmpty then
      modify fun shop => { shop with waiting := [] }
      waiting.forM fill
      fillAll fuel

end Building

/-- What is built of the nodes of a document. -/
def Document.build (document : Document) : Reading (Array (Option Built)) :=
  let graph := document.graph
  let start : Workshop :=
    ⟨graph, Array.replicate graph.size none, [], graph.entryCount + 1⟩
  (do
    Building.visit document.root
    Building.fillAll (graph.size + 2)
    return (← get).built : Building (Array (Option Built))).run' start

end RecallChat.Yaml
