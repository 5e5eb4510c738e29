import RecallChat.Seating
import RecallChat.Yaml.Build

/-!
# Documents as values

A document that was built is a graph, and its value is a tree: the parts of a collection are
unfolded, and where a collection stands inside itself there is a reference back.  The values of an
outermost map are unfolded each on its own, so a reference back never goes beyond the value it is
in.
-/

namespace RecallChat.Yaml

set_option autoImplicit false

/-- The values that are known already, by node. -/
abbrev Known := Array (Option Value)

/-- Entries with all their keys and values unfolded, and whether there is no reference back. -/
def unfoldEntries (part : NodeId → StateM Known (Value × Bool)) (entries : Entries) :
    StateM Known (List (Value × Value) × Bool) := do
  let parts ← entries.mapM fun (key, value) => do return (← part key, ← part value)
  return (parts.map fun (key, value) => (key.1, value.1),
    parts.all fun (key, value) => key.2 && value.2)

/-- The value of a node inside the collections around it, and whether there is no reference back in
it; then it is the same in every place. -/
def unfold (built : Array (Option Built)) : Nat → List NodeId → NodeId →
    StateM Known (Value × Bool)
  | 0, _, _ => pure (.null, false)
  | fuel + 1, around, id => do
    if let some value := ((← get)[id]?).join then return (value, true)
    let part := unfold built fuel (id :: around)
    let isInside := around.contains id
    let (value, isWhole) ← match (built[id]?).join with
      | some (.scalar value _) => pure (value, true)
      | some (.set keys) => do
        let parts ← keys.mapM part
        pure (.set (Seating.listed (parts.map Prod.fst)), true)
      | some (.map entries) =>
        if isInside then pure (.enclosing true, false)
        else do
          let (entries, isWhole) ← unfoldEntries part entries
          pure (.map entries, isWhole)
      | some (.list items) =>
        if isInside then pure (.enclosing false, false)
        else do
          let parts ← items.mapM part
          pure (.list (parts.map Prod.fst), parts.all Prod.snd)
      | some (.pairs entries) =>
        if isInside then pure (.enclosing false, false)
        else do
          let (entries, isWhole) ← unfoldEntries part entries
          pure (.list (entries.map fun (key, value) => .tuple [key, value]), isWhole)
      | some .announced | none => pure (.null, true)
    if isWhole then modify fun known => known.setIfInBounds id (some value)
    return (value, isWhole)

/-- The value of a document of which everything is built. -/
def valueOf (built : Array (Option Built)) (root : NodeId) : Value :=
  let value (id : NodeId) : StateM Known (Value × Bool) := unfold built (built.size + 1) [] id
  let whole : StateM Known Value :=
    match (built[root]?).join with
    | some (.map entries) => do return .map (← unfoldEntries value entries).1
    | _ => do return (← value root).1
  (Id.run (whole.run (Array.replicate built.size none))).1

/-- The value of a document; a text without document has none. -/
def read (text : String) : Reading Value := do
  match ← Document.ofText text.toList with
  | none => return .null
  | some document => return valueOf (← document.build) document.root

end RecallChat.Yaml
