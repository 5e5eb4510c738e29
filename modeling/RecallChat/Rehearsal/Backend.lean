import RecallChat.Rehearsal.Stage

/-!
# A rehearsal backend

A backend whose providers are told beforehand which of them are available, which fail, and which
pass a model on to others.  A model is a scripted graph or a list of results.
-/

namespace RecallChat.Rehearsal

set_option autoImplicit false

/-- What a model does when it is run. -/
inductive ModelBehaviour where
  | graph (graph : ScriptedGraph)
  | results (results : List Tensor)

/-- A model with its declarations. -/
structure ModelScript where
  inputs : DeclaredInputs
  outputs : List String
  behaviour : ModelBehaviour
  failure : Option Fault

/-- The inputs that a model declares when nothing else is said. -/
def standardInputs : DeclaredInputs :=
  [("input_ids", some [.size 1, .symbol "seq"]), ("attention_mask", some [.size 1, .symbol "seq"])]

/-- The feed of a run, for the record. -/
def feedRecord (feed : NamedTensors) : FeedRecord :=
  feed.map fun (name, tensor) => (name, tensor.shape, tensor.elements.kindName)

/-- A session for a model; a graph begins a new life. -/
def sessionOf (model : ModelScript) (active : List String) :
    Action Stage (BuiltSession Stage) := do
  let life ← Stage.newLife
  let run (requested : List String) (feed : NamedTensors) : Action Stage (List Tensor) := do
    Action.change fun stage => { stage with feeds := stage.feeds ++ [feedRecord feed] }
    if let some fault := model.failure then throw fault
    match model.behaviour with
    | .results results => return results
    | .graph graph => return (← Stage.runScripted graph life feed requested).map Prod.snd
  return ⟨pure active, pure model.inputs, pure model.outputs, run⟩

/-- What is told about providers. -/
structure ProviderScript where
  available : List String
  failures : List (String × String)
  fallbacks : List (String × List String)

/-- The backend that does as told; `decode` reads model files. -/
def backendOf (providers : ProviderScript) (decode : ByteArray → Option ModelScript) :
    Backend Stage where
  available := pure providers.available
  create path level provider := do
    Action.change fun stage => { stage with created := stage.created ++ [(provider, level)] }
    if let some message := named? providers.failures provider then
      throw (.outside .backend message)
    match decode (← Stage.readBytes path) with
    | none => throw (.outside .backend "not a model")
    | some model => sessionOf model ((named? providers.fallbacks provider).getD [provider])

end RecallChat.Rehearsal
