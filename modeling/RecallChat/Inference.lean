import RecallChat.Action
import RecallChat.Named
import RecallChat.Path
import RecallChat.Tensor

/-!
# Graphs and inference sessions

A graph takes named tensors and returns the requested outputs.  An inference session guards a
backend: it runs the backend only for exactly the declared inputs with fitting shapes and for
declared outputs, and turns every fault of the backend into an inference fault.
-/

namespace RecallChat

set_option autoImplicit false

/-- Anything that computes requested outputs from named tensors. -/
structure Graph (σ : Type) where
  run : NamedTensors → List String → Action σ NamedTensors

/-- A declared size of an input: a number, or a name or nothing for any size. -/
inductive Dimension where
  | size (n : Int)
  | symbol (name : String)
  | unknown
  deriving DecidableEq, Repr

namespace Dimension

/-- A declared size as it shows in a list. -/
def shown : Dimension → String
  | size n => toString n
  | symbol name => Text.quoted name
  | unknown => "None"

/-- Whether an actual size fits; only positive numbers demand a size. -/
def accepts (dimension : Dimension) (actual : Nat) : Bool :=
  match dimension with
  | size n => n ≤ 0 || n == actual
  | _ => true

end Dimension

/-- The declared inputs of a graph.  The shape of an input can be left out. -/
abbrev DeclaredInputs := List (String × Option (List Dimension))

/-- A session that a backend has built.  What it says of itself is asked of it, and it can fail to
answer. -/
structure BuiltSession (σ : Type) where
  /-- The providers that the session really uses. -/
  providers : Action σ (List String)
  inputs : Action σ DeclaredInputs
  outputs : Action σ (List String)
  run : List String → NamedTensors → Action σ (List Tensor)

/-- The session of a backend, with what it has declared. -/
structure BackendSession (σ : Type) where
  inputs : DeclaredInputs
  outputs : List String
  run : List String → NamedTensors → Action σ (List Tensor)

/-- A session that was asked for its declarations, the inputs first. -/
def BuiltSession.declared {σ : Type} (session : BuiltSession σ) : Action σ (BackendSession σ) := do
  let inputs ← session.inputs
  let outputs ← session.outputs
  return ⟨inputs, outputs, session.run⟩

/-- A backend session bound to the provider that took its model. -/
structure InferenceSession (σ : Type) where
  backend : BackendSession σ
  path : Path
  provider : String
  attempts : List ProviderAttempt

namespace InferenceSession

variable {σ : Type}

/-- The declared inputs by name. -/
def inputs (session : InferenceSession σ) : DeclaredInputs :=
  distinctNames session.backend.inputs

/-- The names of the declared inputs. -/
def inputNames (session : InferenceSession σ) : List String := session.inputs.map Prod.fst

/-- The names of the declared outputs. -/
def outputNames (session : InferenceSession σ) : List String := session.backend.outputs

/-- The name under which the model shows. -/
def modelName (session : InferenceSession σ) : String := session.path.name.replaced

/-- Refuses an actual shape that does not fit the declared one; a shape that is left out has no
dimensions. -/
def checkShape (name : String) (shape : List Nat) (declared : Option (List Dimension)) :
    Except Fault Unit :=
  let declared := declared.getD []
  let expected := Text.bracketed (declared.map Dimension.shown)
  if shape.length ≠ declared.length then
    .error (.inference (.rank name shape.length expected))
  else if (declared.zip shape).all fun pair => pair.1.accepts pair.2 then .ok ()
  else .error (.inference (.shape name (shapeText shape) expected))

/-- Refuses names that are not exactly the declared inputs. -/
def checkNames (session : InferenceSession σ) (given : List String) : Except Fault Unit :=
  let missing := session.inputNames.filter fun name => !given.contains name
  let unexpected := given.filter fun name => !session.inputNames.contains name
  if missing ≠ [] then .error (.inference (.missingInputs missing session.modelName))
  else if unexpected ≠ [] then
    .error (.inference (.unexpectedInputs unexpected session.modelName))
  else .ok ()

/-- Refuses inputs that do not fit: first by their names, then by their shapes in the order in which
the graph declares them. -/
def checkInputs (session : InferenceSession σ) (given : List String)
    (shapeOf : String → Except Fault (List Nat)) : Except Fault Unit := do
  session.checkNames given
  session.inputs.forM fun (name, declared) => do checkShape name (← shapeOf name) declared

/-- The outputs to compute: all of them when none are requested. -/
def requestedOutputs (session : InferenceSession σ) (outputs : Option (List String)) :
    Except Fault (List String) :=
  let requested := outputs.getD session.outputNames
  let unknown := requested.filter fun name => !session.outputNames.contains name
  if unknown = [] then .ok requested
  else .error (.inference (.unknownOutputs unknown session.modelName session.outputNames))

/-- Runs the backend; its results are named in order, as many as there are names and results. -/
def execute (session : InferenceSession σ) (feed : NamedTensors) (requested : List String) :
    Action σ NamedTensors := do
  match ← (session.backend.run requested feed).attempt with
  | .ok results => return distinctNames (requested.zip results)
  | .error fault => throw (.inference (.execution session.modelName fault.text))

/-- Runs the graph on named tensors. -/
def run (session : InferenceSession σ) (feed : NamedTensors) (outputs : Option (List String)) :
    Action σ NamedTensors := do
  let shapeOf (name : String) : Except Fault (List Nat) :=
    .ok (((named? feed name).map Tensor.shape).getD [])
  Action.ofExcept (session.checkInputs (feed.map Prod.fst) shapeOf)
  session.execute feed (← Action.ofExcept (session.requestedOutputs outputs))

/-- Runs the graph on nested numbers under names. -/
def runNested (session : InferenceSession σ) (inputs : List (String × Value))
    (outputs : Option (List String)) : Action σ NamedTensors := do
  let given := distinctNames inputs
  let shapeOf (name : String) : Except Fault (List Nat) :=
    ((named? given name).getD (.list [])).shape
  Action.ofExcept (session.checkInputs (given.map Prod.fst) shapeOf)
  let requested ← Action.ofExcept (session.requestedOutputs outputs)
  let feed ← given.mapM fun (name, value) => do
    return (name, ← Action.ofExcept (Tensor.ofValue value))
  session.execute feed requested

/-- The session as a graph. -/
def graph (session : InferenceSession σ) : Graph σ where
  run feed outputs := session.run feed (some outputs)

end InferenceSession

end RecallChat
