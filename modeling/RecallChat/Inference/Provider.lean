import RecallChat.Inference
import RecallChat.Wording

/-!
# Negotiating a provider

A model is offered to execution providers in order of preference.  The baseline provider is always
the last one offered to, wherever it stands among the preferred ones.  The first provider that is
available, builds a session and is really used by it wins; every one before it counts as a failed
attempt with its reason.  Only the building of a session may fail in this way: a session that was
built and cannot say which providers it uses, or what it declares, ends the search with its fault.
-/

namespace RecallChat

set_option autoImplicit false

/-- How far a backend optimizes a graph. -/
inductive Optimization where
  | disable
  | basic
  | extended
  | all
  deriving DecidableEq, Repr

/-- The optimization level that a configured value names. -/
def Optimization.parse (level : Value) : Except Fault Optimization :=
  match level with
  | .text "disable" => .ok .disable
  | .text "basic" => .ok .basic
  | .text "extended" => .ok .extended
  | .text "all" => .ok .all
  | other =>
    if other.isHashable then
      other.inWords.bind fun text => .error (.misuse (.unknownOptimization text))
    else .error (.wrongType ("no level can be of kind " ++ other.kindName))

/-- What builds sessions for models. -/
structure Backend (σ : Type) where
  available : Action σ (List String)
  create : Path → Optimization → String → Action σ (BuiltSession σ)

namespace Backend

variable {σ : Type}

/-- The name under which sessions log. -/
def logSource : String := "tierchat.runtime"

/-- The provider that every backend should have. -/
def baseline : String := "CPUExecutionProvider"

/-- The providers that are preferred when none are named. -/
def defaultProviders : List String :=
  ["CUDAExecutionProvider", "CoreMLExecutionProvider", "DmlExecutionProvider"]

/-- The providers in the order in which they are tried. -/
def order (preferred : List String) : List String :=
  preferred.filter (· != baseline) ++ [baseline]

/-- Tries one provider: a session, or the reason why there is none. -/
def tryProvider (backend : Backend σ) (path : Path) (level : Optimization) (provider : String) :
    Action σ (Except String (BuiltSession σ)) := do
  if !(← backend.available).contains provider then
    return .error "not available in this onnxruntime build"
  match ← (backend.create path level provider).attempt with
  | .error fault => return .error fault.text
  | .ok session =>
    let active ← session.providers
    if active.contains provider then return .ok session
    else return .error ("session fell back to " ++ quotedNames active)

/-- Tries providers in order until one takes the model; `failed` are the attempts so far. -/
def negotiate (backend : Backend σ) (path : Path) (level : Optimization) :
    List String → List ProviderAttempt → Action σ (InferenceSession σ)
  | [], failed =>
    let reasons := failed.map fun attempt => (attempt.provider, attempt.failure.getD "")
    throw (.load path.text (.noProvider reasons) failed)
  | provider :: rest, failed => do
    let report (outcome : String) : Action σ Unit :=
      Action.log .debug logSource
        (.ofString ("Provider " ++ provider ++ " for ") ++ path.name ++
          .ofString (": " ++ outcome))
    match ← backend.tryProvider path level provider with
    | .error reason =>
      report reason
      backend.negotiate path level rest (failed ++ [⟨provider, some reason⟩])
    | .ok session =>
      report "ok"
      Action.log .info logSource
        (.ofString "Committed " ++ path.points ++ .ofString (" with " ++ provider))
      return ⟨← session.declared, path, provider, failed ++ [⟨provider, none⟩]⟩

/-- A session for the model file of a path. -/
def load (backend : Backend σ) (isFile : Path → Action σ Bool) (path : Path)
    (preferred : List String) (level : Value) : Action σ (InferenceSession σ) := do
  if !(← isFile path) then throw (.load path.text .modelMissing [])
  let level ← Action.ofExcept (Optimization.parse level)
  backend.negotiate path level (order preferred) []

end Backend

end RecallChat
