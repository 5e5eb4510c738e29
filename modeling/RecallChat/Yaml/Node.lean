import RecallChat.Text.CodePoints

/-!
# YAML nodes

What a document is before its scalars are given values: a table of tagged scalars, sequences and
mappings, which refer to each other by number.  An alias is another reference to the same node, so
a node can stand in several places, and a collection can hold itself.
-/

namespace RecallChat.Yaml

set_option autoImplicit false

/-- The number of a node in its document. -/
abbrev NodeId := Nat

/-- The entries of a mapping: keys and values. -/
abbrev Entries := List (NodeId × NodeId)

/-- What a node holds. -/
inductive Content where
  | scalar (text : Text.CodePoints)
  | sequence (items : List NodeId)
  | mapping (entries : Entries)

instance : Inhabited Content := ⟨.scalar []⟩

/-- A part of a document. -/
structure Node where
  tag : String
  content : Content
  deriving Inhabited

/-- What the tags of the standard kinds start with. -/
def standardPrefix : String := "tag:yaml.org,2002:"

/-- The tag of a standard kind. -/
def standardTag (kind : String) : String := standardPrefix ++ kind

namespace Node

/-- The standard kind that a node is tagged with, if it is one. -/
def kind? (node : Node) : Option String :=
  let tag := node.tag.toList
  let start := standardPrefix.toList
  if start.isPrefixOf tag then some (String.ofList (tag.drop start.length)) else none

/-- Whether a node is of a standard kind. -/
def isKind (node : Node) (kind : String) : Bool := node.tag == standardTag kind

/-- Nothing. -/
def null : Node := ⟨standardTag "null", .scalar []⟩

end Node

/-- The nodes of a document by number. -/
structure Graph where
  nodes : Array Node

namespace Graph

/-- No nodes. -/
def empty : Graph := ⟨#[]⟩

/-- The number of nodes. -/
def size (graph : Graph) : Nat := graph.nodes.size

/-- A node by number. -/
def node (graph : Graph) (id : NodeId) : Node := graph.nodes.getD id .null

/-- What a node holds. -/
def content (graph : Graph) (id : NodeId) : Content := (graph.node id).content

/-- The entries of a mapping; other nodes have none. -/
def entries (graph : Graph) (id : NodeId) : Entries :=
  match graph.content id with
  | .mapping entries => entries
  | _ => []

/-- The number of a new node, and the graph with it. -/
def add (graph : Graph) (node : Node) : NodeId × Graph := (graph.size, ⟨graph.nodes.push node⟩)

/-- The graph with a node changed. -/
def modify (graph : Graph) (id : NodeId) (f : Node → Node) : Graph := ⟨graph.nodes.modify id f⟩

/-- The graph with a node that holds something else. -/
def setContent (graph : Graph) (id : NodeId) (content : Content) : Graph :=
  graph.modify id fun node => { node with content := content }

/-- The graph with a node of another standard kind. -/
def setKind (graph : Graph) (id : NodeId) (kind : String) : Graph :=
  graph.modify id fun node => { node with tag := standardTag kind }

end Graph

end RecallChat.Yaml
