import RecallChat.Yaml.Cursor
import RecallChat.Yaml.Node

/-!
# Merging mappings

A key `<<` of a mapping brings in the entries of another mapping, or of several; they come before
the mapping's own.  What is merged is itself merged first.  The mapping is changed in place, and its
merge keys are taken away one by one, so a mapping that merges itself finds what is left of it at
that moment.  A key `=` of a merged mapping is an ordinary text from then on, in every place where
its node stands.  A mapping is merged inside the calls for all those that merge it, so a long chain
of merge keys is nested too deep.
-/

namespace RecallChat.Yaml

set_option autoImplicit false

/-- A step that changes a graph and may find something that cannot be merged. -/
abbrev Merging (α : Type) := StateT Graph (Except Trouble) α

namespace Graph

/-- The number of entries of all mappings. -/
def entryCount (graph : Graph) : Nat :=
  let counts := graph.nodes.toList.map fun node =>
    match node.content with
    | .mapping entries => entries.length
    | _ => 0
  counts.foldl (· + ·) 0

/-- The value of the first merge key among entries, and the entries without it. -/
def takeMerge? (graph : Graph) : Entries → Option (NodeId × Entries)
  | [] => none
  | (key, value) :: rest =>
    if (graph.node key).isKind "merge" then some (value, rest)
    else (graph.takeMerge? rest).map fun (source, others) => (source, (key, value) :: others)

/-- The graph in which the keys `=` among entries are texts. -/
def withTextKeys (graph : Graph) (entries : Entries) : Graph :=
  entries.foldl (fun graph entry =>
    if (graph.node entry.1).isKind "value" then graph.setKind entry.1 "str" else graph) graph

end Graph

namespace Merging

mutual
/-- Puts what the merge keys of a mapping bring in before its own entries; `around` is the number of
mappings that are being merged around it. -/
def flatten : Nat → Nat → NodeId → Merging Unit
  | 0, _, _ => throw .malformed
  | fuel + 1, around, id => do
    if maxCalls < around then throw .tooDeep
    let merged ← gather fuel around id
    modify fun graph => (graph.withTextKeys (graph.entries id)).setContent id
      (.mapping (merged ++ graph.entries id))

/-- The entries that the merge keys of a mapping bring in; the keys are taken away. -/
def gather : Nat → Nat → NodeId → Merging Entries
  | 0, _, _ => throw .malformed
  | fuel + 1, around, id => do
    let graph ← get
    match graph.takeMerge? (graph.entries id) with
    | none => return []
    | some (source, others) =>
      set (graph.setContent id (.mapping others))
      let first ← sourceEntries fuel (around + 1) source
      return first ++ (← gather fuel around id)

/-- The entries of the source of a merge: a mapping, or a sequence of mappings, of which the first
one comes last. -/
def sourceEntries : Nat → Nat → NodeId → Merging Entries
  | 0, _, _ => throw .malformed
  | fuel + 1, around, source => do
    match (← get).content source with
    | .mapping _ => flattened fuel around source
    | .sequence items => return (← items.mapM (flattened fuel around)).reverse.flatten
    | .scalar _ => throw .malformed

/-- The entries of a mapping after merging. -/
def flattened : Nat → Nat → NodeId → Merging Entries
  | 0, _, _ => throw .malformed
  | fuel + 1, around, id => do
    match (← get).content id with
    | .mapping _ =>
      flatten fuel around id
      return (← get).entries id
    | _ => throw .malformed
end

end Merging

end RecallChat.Yaml
