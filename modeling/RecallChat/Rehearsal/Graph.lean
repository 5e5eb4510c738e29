import RecallChat.Tensor

/-!
# Scripted graphs

Graphs whose answers are written down beforehand, for rehearsing generation and embedding without a
model.  A graph counts its runs, remembers what it was given, can fail at a chosen run, and can ask
for a cancellation at another.
-/

namespace RecallChat.Rehearsal

set_option autoImplicit false

/-- How a scripted graph answers its n-th run. -/
inductive Script where
  /-- The n-th token has the highest value at the last position. -/
  | tokens (tokens : List Int) (vocabulary : Nat)
  /-- The n-th row stands at the last position. -/
  | rows (rows : List (List Double))
  /-- Every position holds the row of its own token id. -/
  | table (rows : List (List Double))
  /-- Always the same tensor. -/
  | fixed (tensor : Tensor)
  /-- No output at all. -/
  | nothing

/-- A kind of elements to answer with. -/
inductive ElementKind where
  | half
  | single
  | double
  | integer (isSigned : Bool) (bits : Nat)
  | boolean
  deriving DecidableEq, Repr

namespace ElementKind

/-- Numbers as elements of a kind. -/
def elements (kind : ElementKind) (values : List Value) : Elements :=
  let doubles := values.map fun value => value.toDouble.toOption.getD .nan
  match kind with
  | half => .half (doubles.map (Floating.convert .half)).toArray
  | single => .single (doubles.map (Floating.convert .single)).toArray
  | double => .double doubles.toArray
  | integer isSigned bits =>
    .integer isSigned bits (values.map fun value => value.toInteger.toOption.getD 0).toArray
  | boolean => .boolean (values.map Value.isTruthy).toArray

/-- Zeros of a kind with some values at the end. -/
def endingWith (kind : ElementKind) (zeros : Nat) (values : List Double) : Elements :=
  match kind with
  | single =>
    .single (Array.replicate zeros (Floating.zero .single) ++
      (values.map (Floating.convert .single)).toArray)
  | other => other.elements (List.replicate zeros (.real (Floating.zero .double)) ++
      values.map .real)

end ElementKind

/-- A graph with a script. -/
structure ScriptedGraph where
  script : Script
  output : String
  kind : ElementKind
  failsAt : Option (Nat × Fault)
  cancelsAt : Option Nat

/-- The ids, the mask and the outputs that a run was asked for. -/
structure GraphCall where
  ids : List Int
  mask : List Int
  requested : List String

/-- The n-th of several entries, or the last one from there on; runs count from one. -/
def nthOrLast {α : Type} (entries : List α) (run : Nat) : Option α :=
  entries[min run entries.length - 1]?

/-- The index of a token in a row; negative ones count from the end. -/
def rowIndex? (token : Int) (width : Nat) : Option Nat :=
  if 0 ≤ token ∧ token < width then some token.toNat
  else if token < 0 ∧ -(width : Int) ≤ token then some (token + width).toNat
  else none

/-- An index that is out of bounds. -/
def outOfBounds : Fault := .outside .indexOut "index out of bounds"

/-- A row with a single one. -/
def oneHot (width index : Nat) : List Double :=
  let zero := Floating.zero .double
  List.replicate index zero ++ Floating.ofInt .double 1 :: List.replicate (width - index - 1) zero

/-- The tensor with a row at the last position and zeros before it. -/
def lastPosition (kind : ElementKind) (length : Nat) (row : List Double) : Tensor :=
  ⟨[1, length, row.length], kind.endingWith ((length - 1) * row.length) row⟩

namespace ScriptedGraph

/-- The answer to a run with the given token ids. -/
def answer (graph : ScriptedGraph) (run : Nat) (ids : List Int) : Except Fault NamedTensors := do
  match graph.script with
  | .nothing => return []
  | .fixed tensor => return [(graph.output, tensor)]
  | .tokens tokens vocabulary =>
    match (nthOrLast tokens run).bind fun token => rowIndex? token vocabulary with
    | some index =>
      return [(graph.output, lastPosition graph.kind ids.length (oneHot vocabulary index))]
    | none => throw outOfBounds
  | .rows rows =>
    match nthOrLast rows run with
    | some row => return [(graph.output, lastPosition graph.kind ids.length row)]
    | none => throw outOfBounds
  | .table rows =>
    let chosen ← ids.mapM fun id =>
      match if id < 0 then none else rows[id.toNat]? with
      | some row => Except.ok row
      | none => .error (.outside .backend ("id " ++ toString id ++ " out of range"))
    let width := (chosen.head?.map List.length).getD 0
    if chosen.any fun row => row.length != width then
      throw (.wrongValue "the rows of the table differ in length")
    return [(graph.output,
      ⟨[1, ids.length, width], graph.kind.elements (chosen.flatten.map .real)⟩)]

end ScriptedGraph

end RecallChat.Rehearsal
