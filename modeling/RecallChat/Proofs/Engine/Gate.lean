import RecallChat.Inference
import RecallChat.Proofs.Outcome
import RecallChat.Proofs.Recording

/-!
# The gate of a session

A session stands between its callers and a backend.  What it lets through is said by the
declarations of the graph alone (`InferenceSession.Accepts`): the names are those of the declared
inputs, every array has the rank and the fixed sizes that are declared for it, and every requested
output is declared.  The checks decide exactly this (`Decides`), one by one and one after the other.
A call with nested numbers is the call with the arrays that they denote (`runNested_eq`).

A session that records what it asks its backend shows that an accepted call is one run of the
backend with the call's own names and arrays, and that any other call is none (`run_gated`).
-/

set_option autoImplicit false

namespace RecallChat

/-! ## Checks that decide -/

/-- That an outcome is a given value where something holds, and an inference fault where it does
not. -/
def Decides {α : Type} (property : Prop) (value : α) (outcome : Except Fault α) : Prop :=
  property ∧ outcome = .ok value ∨ ¬ property ∧ ∃ cause, outcome = .error (.inference cause)

namespace Decides

variable {α β : Type} {property other : Prop} {value : α} {outcome : Except Fault α}

theorem congr (decides : Decides property value outcome) (same : other ↔ property) :
    Decides other value outcome := by
  unfold Decides
  rw [same]
  exact decides

theorem ite (condition : Prop) [Decidable condition] (value : α) (cause : InferenceCause) :
    Decides condition value (if condition then .ok value else .error (.inference cause)) := by
  by_cases holds : condition
  · exact .inl ⟨holds, if_pos holds⟩
  · exact .inr ⟨holds, cause, if_neg holds⟩

/-- Two checks, one after the other, decide that both properties hold. -/
theorem bind (first : Decides property value outcome) {next : α → Except Fault β} {result : β}
    (second : property → Decides other result (next value)) :
    Decides (property ∧ other) result (outcome >>= next) := by
  rcases first with ⟨holds, rfl⟩ | ⟨fails, cause, rfl⟩
  · rcases second holds with ⟨holds', passed⟩ | ⟨fails, cause, refused⟩
    · exact .inl ⟨⟨holds, holds'⟩, passed⟩
    · exact .inr ⟨fun both => fails both.2, cause, refused⟩
  · exact .inr ⟨fun both => fails both.1, cause, rfl⟩

/-- A check of every item decides that all have the property. -/
theorem forM {ι : Type} {property : ι → Prop} {check : ι → Except Fault Unit}
    (each : ∀ item, Decides (property item) () (check item)) (items : List ι) :
    Decides (∀ item ∈ items, property item) () (items.forM check) := by
  induction items with
  | nil => exact .inl ⟨nofun, rfl⟩
  | cons item rest ih =>
      exact ((each item).bind fun _ => ih).congr List.forall_mem_cons

end Decides

/-! ## Declared shapes -/

/-- That a shape has the declared rank and the declared sizes; only positive numbers declare one. -/
structure Dimension.Fits (declared : List Dimension) (shape : List Nat) : Prop where
  rank : shape.length = declared.length
  sizes : ∀ (axis : Nat) (n : Int), declared[axis]? = some (.size n) → 0 < n →
    ∃ size, shape[axis]? = some size ∧ (size : Int) = n

namespace Dimension

theorem accepts_iff {dimension : Dimension} {actual : Nat} :
    dimension.accepts actual = true ↔ ∀ n, dimension = .size n → 0 < n → (actual : Int) = n := by
  cases dimension with
  | size n =>
      have unequal : (n ≤ 0 ∨ n = actual) ↔ (0 < n → (actual : Int) = n) := by omega
      simpa [accepts] using unequal
  | symbol name => simp [accepts]
  | unknown => simp [accepts]

/-- The sizes of a shape of the declared rank are checked one by one. -/
theorem fits_iff {declared : List Dimension} {shape : List Nat}
    (rank : shape.length = declared.length) :
    ((declared.zip shape).all fun pair => pair.1.accepts pair.2) = true ↔ Fits declared shape := by
  rw [List.all_eq_true]
  constructor
  · intro each
    refine ⟨rank, fun axis n fixed positive => ?_⟩
    obtain ⟨inside, -⟩ := List.getElem?_eq_some_iff.mp fixed
    have there : shape[axis]? = some shape[axis] := List.getElem?_eq_getElem (rank ▸ inside)
    have placed := List.getElem?_zip_eq_some (z := (size n, shape[axis])).mpr ⟨fixed, there⟩
    exact ⟨_, there, accepts_iff.mp (each _ (List.mem_of_getElem? placed)) n rfl positive⟩
  · intro fits pair member
    obtain ⟨axis, placed⟩ := List.mem_iff_getElem?.mp member
    obtain ⟨fixed, there⟩ := List.getElem?_zip_eq_some.mp placed
    refine accepts_iff.mpr fun n is positive => ?_
    obtain ⟨size, there', equal⟩ := fits.sizes axis n (is ▸ fixed) positive
    rw [there] at there'
    cases there'
    exact equal

end Dimension

namespace InferenceSession

variable {σ : Type} (session : InferenceSession σ)

/-! ## Checks of a session -/

theorem checkShape_decides (name : String) (shape : List Nat)
    (declared : Option (List Dimension)) :
    Decides (Dimension.Fits (declared.getD []) shape) () (checkShape name shape declared) := by
  unfold checkShape
  dsimp only
  by_cases rank : shape.length = (declared.getD []).length
  · rw [if_neg (Decidable.not_not.mpr rank)]
    exact (Decides.ite _ _ _).congr (Dimension.fits_iff rank).symm
  · rw [if_pos rank]
    exact .inr ⟨fun fits => rank fits.rank, _, rfl⟩

theorem checkNames_decides (given : List String) :
    Decides (∀ name, name ∈ given ↔ name ∈ session.inputNames) () (session.checkNames given) := by
  have complete : session.inputNames.filter (fun name => !given.contains name) = [] ↔
      ∀ name ∈ session.inputNames, name ∈ given := by
    simp [List.filter_eq_nil_iff]
  have known : given.filter (fun name => !session.inputNames.contains name) = [] ↔
      ∀ name ∈ given, name ∈ session.inputNames := by
    simp [List.filter_eq_nil_iff]
  unfold checkNames
  dsimp only
  by_cases missing : session.inputNames.filter (fun name => !given.contains name) = []
  · rw [if_neg (Decidable.not_not.mpr missing)]
    by_cases unexpected : given.filter (fun name => !session.inputNames.contains name) = []
    · rw [if_neg (Decidable.not_not.mpr unexpected)]
      exact .inl ⟨fun name =>
        ⟨known.mp unexpected name, complete.mp missing name⟩, rfl⟩
    · rw [if_pos unexpected]
      exact .inr ⟨fun same => unexpected (known.mpr fun name => (same name).mp), _, rfl⟩
  · rw [if_pos missing]
    exact .inr ⟨fun same => missing (complete.mpr fun name => (same name).mpr), _, rfl⟩

theorem requestedOutputs_decides (outputs : Option (List String)) :
    Decides (∀ name ∈ outputs.getD session.outputNames, name ∈ session.outputNames)
      (outputs.getD session.outputNames) (session.requestedOutputs outputs) := by
  have known : (outputs.getD session.outputNames).filter
        (fun name => !session.outputNames.contains name) = [] ↔
      ∀ name ∈ outputs.getD session.outputNames, name ∈ session.outputNames := by
    simp [List.filter_eq_nil_iff]
  exact (Decides.ite _ _ _).congr known.symm

/-! ## What a session accepts -/

/-- That a call fits the declarations of the graph: the names of its arrays are those of the
declared inputs, each array fits the shape that is declared under its name, where one that is left
out has no dimensions, and all requested outputs are declared. -/
structure Accepts (feed : NamedTensors) (requested : List String) : Prop where
  names : ∀ name, name ∈ feed.map Prod.fst ↔ name ∈ session.inputNames
  shapes : ∀ name declared tensor, (name, declared) ∈ session.inputs →
    named? feed name = some tensor → Dimension.Fits (declared.getD []) tensor.shape
  outputs : ∀ name ∈ requested, name ∈ session.outputNames

/-- The shape of the array that a call gives under a name. -/
def shapeIn (feed : NamedTensors) (name : String) : List Nat :=
  ((named? feed name).map Tensor.shape).getD []

theorem shapeIn_of_given {feed : NamedTensors} {name : String} {tensor : Tensor}
    (given : named? feed name = some tensor) : shapeIn feed name = tensor.shape := by
  rw [shapeIn, given]
  rfl

theorem checkInputs_decides (feed : NamedTensors) :
    Decides
      ((∀ name, name ∈ feed.map Prod.fst ↔ name ∈ session.inputNames) ∧
        ∀ entry ∈ session.inputs, Dimension.Fits (entry.2.getD []) (shapeIn feed entry.1)) ()
      (session.checkInputs (feed.map Prod.fst) fun name => .ok (shapeIn feed name)) := by
  unfold checkInputs
  refine (session.checkNames_decides _).bind fun _ => ?_
  exact Decides.forM (fun entry => checkShape_decides entry.1 _ entry.2) session.inputs

variable {session}

/-- **The checks of a call decide whether it is accepted.** -/
theorem checks_decide (feed : NamedTensors) (outputs : Option (List String)) :
    Decides (session.Accepts feed (outputs.getD session.outputNames))
      (outputs.getD session.outputNames)
      (do
        session.checkInputs (feed.map Prod.fst) fun name => .ok (shapeIn feed name)
        session.requestedOutputs outputs) := by
  refine ((session.checkInputs_decides feed).bind fun _ =>
    session.requestedOutputs_decides outputs).congr ⟨fun accepts => ?_, fun checked => ?_⟩
  · refine ⟨⟨accepts.names, fun entry member => ?_⟩, accepts.outputs⟩
    obtain ⟨tensor, given⟩ :=
      named?_of_mem ((accepts.names entry.1).mpr (List.mem_map_of_mem member))
    rw [shapeIn_of_given given]
    exact accepts.shapes entry.1 entry.2 tensor member given
  · obtain ⟨⟨names, fits⟩, declared⟩ := checked
    refine ⟨names, fun name shape tensor member given => ?_, declared⟩
    exact shapeIn_of_given given ▸ fits (name, shape) member

/-! ## Nested numbers -/

/-- Only the shapes under the given names are checked. -/
theorem checkInputs_congr (session : InferenceSession σ) {given : List String}
    {shapeOf shapeOf' : String → Except Fault (List Nat)}
    (same : ∀ name ∈ given, shapeOf name = shapeOf' name) :
    session.checkInputs given shapeOf = session.checkInputs given shapeOf' := by
  unfold checkInputs
  rcases session.checkNames_decides given with ⟨names, passed⟩ | ⟨_, cause, failed⟩
  · rw [passed]
    -- all declared names are given, so the shapes agree entry by entry
    refine Outcome.forM_congr fun entry member => ?_
    have declared : entry.1 ∈ session.inputNames := List.mem_map_of_mem member
    exact congrArg (· >>= fun shape => checkShape entry.1 shape entry.2)
      (same entry.1 ((names entry.1).mpr declared))
  · rw [failed]
    rfl

theorem mapM_arrays {entries : List (String × Value)} {array : String × Value → Tensor}
    (arrays : ∀ entry ∈ entries, Tensor.ofValue entry.2 = .ok (array entry)) :
    (entries.mapM fun (name, value) => do
      return (name, ← Action.ofExcept (Tensor.ofValue value)) : Action σ NamedTensors) =
      pure (entries.map fun entry => (entry.1, array entry)) := by
  induction entries with
  | nil => rfl
  | cons entry rest ih =>
      obtain ⟨name, value⟩ := entry
      have first : Tensor.ofValue value = .ok (array (name, value)) := arrays _ List.mem_cons_self
      rw [List.mapM_cons, ih fun other later => arrays other (List.mem_cons_of_mem _ later)]
      dsimp only
      rw [first]
      rfl

/-- **A call with nested numbers is the call with the arrays that they denote.** -/
theorem runNested_eq (session : InferenceSession σ) {inputs : List (String × Value)}
    {array : String × Value → Tensor}
    (arrays : ∀ entry ∈ distinctNames inputs, Tensor.ofValue entry.2 = .ok (array entry))
    (outputs : Option (List String)) :
    session.runNested inputs outputs =
      session.run ((distinctNames inputs).map fun entry => (entry.1, array entry)) outputs := by
  have names : ((distinctNames inputs).map fun entry => (entry.1, array entry)).map Prod.fst =
      (distinctNames inputs).map Prod.fst := List.map_map
  have shapes : ∀ name ∈ (distinctNames inputs).map Prod.fst,
      ((named? (distinctNames inputs) name).getD (.list [])).shape =
        .ok (shapeIn ((distinctNames inputs).map fun entry => (entry.1, array entry)) name) := by
    intro name member
    obtain ⟨entry, found⟩ := find?_of_mem member
    have shaped : entry.2.shape = .ok (array entry).shape := by
      obtain ⟨shape, known, made⟩ :=
        Outcome.map_eq_ok.mp (arrays entry (List.mem_of_find?_eq_some found))
      rw [known, ← made]
    rw [shapeIn, named?_map array, named?, found]
    exact shaped
  unfold runNested run
  dsimp only
  rw [session.checkInputs_congr shapes, mapM_arrays arrays, names]
  rfl

/-! ## Runs of the backend -/

/-- One run of a backend: what was requested, what was fed, and what came of it. -/
structure BackendRun where
  requested : List String
  feed : NamedTensors
  answer : Except Fault (List Tensor)

/-- The session of a backend that writes its runs down. -/
def recorded (session : InferenceSession σ) : InferenceSession (Recorded BackendRun σ) where
  backend :=
    { inputs := session.backend.inputs
      outputs := session.backend.outputs
      run := fun requested feed =>
        (session.backend.run requested feed).recorded fun answer => ⟨requested, feed, answer⟩ }
  path := session.path
  provider := session.provider
  attempts := session.attempts

/-- What a session makes of the answer of its backend to a run for some outputs. -/
def Answers (session : InferenceSession σ) (requested : List String) :
    Except Fault (List Tensor) → Except Fault NamedTensors → Prop
  | .error fault, outcome =>
    outcome = .error (.inference (.execution session.modelName fault.text))
  | .ok results, outcome => ∃ named, outcome = .ok named ∧
    (requested.Nodup → named = requested.zip results)

theorem accepts_recorded {feed : NamedTensors} {requested : List String} :
    session.recorded.Accepts feed requested ↔ session.Accepts feed requested :=
  ⟨fun accepts => ⟨accepts.names, accepts.shapes, accepts.outputs⟩,
    fun accepts => ⟨accepts.names, accepts.shapes, accepts.outputs⟩⟩

/-- A call is checked, and then executed. -/
theorem run_eq (session : InferenceSession σ) (feed : NamedTensors)
    (outputs : Option (List String)) :
    session.run feed outputs =
      Action.ofExcept (do
        session.checkInputs (feed.map Prod.fst) fun name => .ok (shapeIn feed name)
        session.requestedOutputs outputs) >>= session.execute feed := by
  refine Action.ext_perform fun scene => ?_
  change (Action.ofExcept (session.checkInputs (feed.map Prod.fst)
      fun name => .ok (shapeIn feed name)) >>= fun _ =>
    Action.ofExcept (session.requestedOutputs outputs) >>= session.execute feed).perform scene = _
  cases session.checkInputs (feed.map Prod.fst) fun name => .ok (shapeIn feed name) with
  | error fault => rfl
  | ok _ => rfl

/-- Recording the runs of the backend changes nothing else. -/
theorem run_mirrors (session : InferenceSession σ) (feed : NamedTensors)
    (outputs : Option (List String)) :
    Action.Mirrors Recorded.inner (session.recorded.run feed outputs)
      (session.run feed outputs) := by
  rw [run_eq, run_eq]
  refine (Action.Mirrors.ofExcept _).bind fun requested => ?_
  refine (Action.Mirrors.recorded _ _).attempt.bind fun answer => ?_
  cases answer with
  | error fault => exact .throw _
  | ok results => exact .pure _

/-- Executing a call is one run of the backend. -/
theorem perform_execute (session : InferenceSession σ) (feed : NamedTensors)
    (requested : List String) {world : σ} {journal : Journal}
    {answer : Except Fault (List Tensor)} {after : Scene σ}
    (ran : (session.backend.run requested feed).perform ⟨world, journal⟩ = (answer, after))
    (runs : List BackendRun) :
    ∃ outcome, session.Answers requested answer outcome ∧
      (session.recorded.execute feed requested).perform ⟨⟨world, runs⟩, journal⟩ =
        (outcome, ⟨⟨after.world, runs ++ [⟨requested, feed, answer⟩]⟩, after.journal⟩) := by
  have recorded : (session.recorded.backend.run requested feed).perform ⟨⟨world, runs⟩, journal⟩ =
      (answer, ⟨⟨after.world, runs ++ [⟨requested, feed, answer⟩]⟩, after.journal⟩) :=
    Action.perform_recorded_of runs ran
  have tried : (session.recorded.backend.run requested feed).attempt.perform
      ⟨⟨world, runs⟩, journal⟩ =
        (.ok answer, ⟨⟨after.world, runs ++ [⟨requested, feed, answer⟩]⟩, after.journal⟩) := by
    rw [Action.perform_attempt, recorded]
  unfold execute
  rw [Action.perform_bind_of_ok tried]
  cases answer with
  | error fault => exact ⟨_, rfl, rfl⟩
  | ok results =>
      exact ⟨_, ⟨_, rfl, fun distinct => distinctNames_zip distinct results⟩, rfl⟩

/-- **A call that the declarations of the graph accept is one run of the backend, with the outputs
and the arrays of the call, and any other call is an inference fault and no run.**  What the backend
gives is named in the order of the requested outputs, and its faults become inference faults. -/
theorem run_gated (session : InferenceSession σ) (feed : NamedTensors)
    (outputs : Option (List String)) (world : σ) (runs : List BackendRun) (journal : Journal) :
    let requested := outputs.getD session.outputNames
    Action.Mirrors Recorded.inner (session.recorded.run feed outputs) (session.run feed outputs) ∧
    (session.Accepts feed requested → ∃ answer after outcome,
      (session.backend.run requested feed).perform ⟨world, journal⟩ = (answer, after) ∧
      session.Answers requested answer outcome ∧
      (session.recorded.run feed outputs).perform ⟨⟨world, runs⟩, journal⟩ =
        (outcome, ⟨⟨after.world, runs ++ [⟨requested, feed, answer⟩]⟩, after.journal⟩)) ∧
    (¬ session.Accepts feed requested → ∃ cause,
      (session.recorded.run feed outputs).perform ⟨⟨world, runs⟩, journal⟩ =
        (.error (.inference cause), ⟨⟨world, runs⟩, journal⟩)) := by
  intro requested
  have decides := (session.recorded.checks_decide feed outputs).congr accepts_recorded.symm
  refine ⟨run_mirrors session feed outputs, fun accepts => ?_, fun refused => ?_⟩
  · rcases decides with ⟨_, passed⟩ | ⟨refused, _⟩
    · obtain ⟨outcome, answers, executed⟩ := perform_execute session feed requested rfl runs
      refine ⟨_, _, outcome, rfl, answers, ?_⟩
      rw [run_eq, passed]
      exact executed
    · exact (refused accepts).elim
  · rcases decides with ⟨accepts, _⟩ | ⟨_, cause, failed⟩
    · exact (refused accepts).elim
    · refine ⟨cause, ?_⟩
      rw [run_eq, failed]
      rfl

end InferenceSession

end RecallChat
