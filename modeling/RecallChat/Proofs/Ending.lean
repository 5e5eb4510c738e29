import RecallChat.Action

/-!
# How actions end

What an action can end with, in whatever scene it is performed, is said by two predicates: one that
holds of all its results and one that holds of all its faults (`Action.Ends`).  Every way of
composing actions keeps them: the rest of a composed action may rely on what the first part's results
are (`Ends.bind`), and an attempted action ends with an outcome that the predicates describe
(`Ends.attempt`).

Where no fault is allowed an action always has a result; where every fault is allowed, the predicates
say only what its results are.
-/

set_option autoImplicit false

namespace RecallChat

variable {σ τ α β : Type} {kind : α → Prop} {faults : Fault → Prop}

/-! ## Outcomes -/

namespace Outcome

/-- That an outcome is a result of one kind or a fault of another. -/
def Ends (kind : α → Prop) (faults : Fault → Prop) : Except Fault α → Prop
  | .ok value => kind value
  | .error fault => faults fault

theorem Ends.bind {first : Except Fault α} {next : α → Except Fault β} {kind' : β → Prop}
    (ends : Ends kind faults first) (rest : ∀ value, kind value → Ends kind' faults (next value)) :
    Ends kind' faults (first >>= next) := by
  cases first with
  | error fault => exact ends
  | ok value => exact rest value ends

theorem Ends.map {outcome : Except Fault α} (ends : Ends kind faults outcome) {f : α → β}
    {kind' : β → Prop} (results : ∀ value, kind value → kind' (f value)) :
    Ends kind' faults (outcome.map f) := by
  cases outcome with
  | error fault => exact ends
  | ok value => exact results value ends

/-- The results of a list end with the faults of its items. -/
theorem Ends.mapM {f : α → Except Fault β} (each : ∀ item, Ends (fun _ => True) faults (f item))
    (items : List α) : Ends (fun _ => True) faults (items.mapM f) := by
  induction items with
  | nil => exact trivial
  | cons item rest ih =>
      rw [List.mapM_cons]
      exact (each item).bind fun _ _ => ih.bind fun _ _ => trivial

/-- Choosing among items ends with the faults of the choices. -/
theorem Ends.filterM {f : α → Except Fault Bool}
    (each : ∀ item, Ends (fun _ => True) faults (f item)) (items : List α) :
    Ends (fun _ => True) faults (items.filterM f) := by
  have chosen : ∀ kept, Ends (fun _ => True) faults (items.filterAuxM f kept) := by
    induction items with
    | nil => exact fun _ => trivial
    | cons item rest ih => exact fun _ => (each item).bind fun _ _ => ih _
  exact (chosen []).bind fun _ _ => trivial

end Outcome

/-! ## Actions -/

namespace Action

/-- That an action ends with results of one kind and faults of another, in every scene. -/
def Ends (action : Action σ α) (kind : α → Prop) (faults : Fault → Prop) : Prop :=
  ∀ scene, Outcome.Ends kind faults (action.perform scene).1

namespace Ends

variable {action : Action σ α}

theorem of_ok (ends : action.Ends kind faults) {scene after : Scene σ} {value : α}
    (performed : action.perform scene = (.ok value, after)) : kind value := by
  have ended := ends scene
  rw [performed] at ended
  exact ended

theorem of_error (ends : action.Ends kind faults) {scene after : Scene σ} {fault : Fault}
    (performed : action.perform scene = (.error fault, after)) : faults fault := by
  have ended := ends scene
  rw [performed] at ended
  exact ended

theorem mono (ends : action.Ends kind faults) {kind' : α → Prop} {faults' : Fault → Prop}
    (results : ∀ value, kind value → kind' value) (others : ∀ fault, faults fault → faults' fault) :
    action.Ends kind' faults' := by
  intro scene
  rcases performed : action.perform scene with ⟨fault | value, after⟩
  · exact others fault (ends.of_error performed)
  · exact results value (ends.of_ok performed)

/-- Nothing is said of an action that may end with anything. -/
theorem anyhow (action : Action σ α) : action.Ends (fun _ => True) fun _ => True := by
  intro scene
  cases (action.perform scene).1 with
  | error fault => exact trivial
  | ok value => exact trivial

/-- The results and the faults of an action are those with which it was performed in some scene. -/
theorem performed (action : Action σ α) :
    action.Ends (fun value => ∃ scene after, action.perform scene = (.ok value, after))
      fun fault => ∃ scene after, action.perform scene = (.error fault, after) := by
  intro scene
  rcases ended : action.perform scene with ⟨fault | value, after⟩
  · exact ⟨scene, after, ended⟩
  · exact ⟨scene, after, ended⟩

/-- An action that always has a result ends with faults of every kind. -/
theorem of_sure (ends : action.Ends kind fun _ => False) : action.Ends kind faults :=
  ends.mono (fun _ => id) fun _ => False.elim

theorem pure {value : α} (holds : kind value) : (Pure.pure value : Action σ α).Ends kind faults :=
  fun _ => holds

theorem throw {fault : Fault} (holds : faults fault) :
    (throw fault : Action σ α).Ends kind faults :=
  fun _ => holds

theorem ofExcept {outcome : Except Fault α} (ends : Outcome.Ends kind faults outcome) :
    (Action.ofExcept outcome : Action σ α).Ends kind faults := by
  intro scene
  rw [perform_ofExcept]
  exact ends

theorem world : (Action.world : Action σ σ).Ends (fun _ => True) faults := fun _ => trivial

theorem change (f : σ → σ) : (Action.change f).Ends (fun _ => True) faults := fun _ => trivial

theorem log (level : Level) (source : String) (message : Text.CodePoints) :
    (Action.log level source message : Action σ Unit).Ends (fun _ => True) faults :=
  fun _ => trivial

/-- The rest of a composed action is performed on a result of its first part. -/
theorem bind (ends : action.Ends kind faults) {next : α → Action σ β} {kind' : β → Prop}
    (rest : ∀ value, kind value → (next value).Ends kind' faults) :
    (action >>= next).Ends kind' faults := by
  intro scene
  rw [perform_bind]
  rcases performed : action.perform scene with ⟨fault | value, after⟩
  · exact ends.of_error performed
  · exact rest value (ends.of_ok performed) after

theorem map (ends : action.Ends kind faults) {f : α → β} {kind' : β → Prop}
    (results : ∀ value, kind value → kind' (f value)) : (f <$> action).Ends kind' faults := by
  intro scene
  rw [perform_map]
  exact (ends scene).map results

theorem within (ends : action.Ends kind faults) (part : τ → σ) (put : σ → τ → τ) :
    (action.within part put).Ends kind faults :=
  fun scene => ends ⟨part scene.world, scene.journal⟩

/-- An attempted action always has a result, which is how the action ended. -/
theorem attempt (ends : action.Ends kind faults) {faults' : Fault → Prop} :
    action.attempt.Ends (Outcome.Ends kind faults) faults' :=
  fun scene => ends scene

/-- What comes after an action matters only on the results that it can have. -/
theorem bind_congr (ends : action.Ends kind faults) {next next' : α → Action σ β}
    (same : ∀ value, kind value → next value = next' value) :
    action >>= next = action >>= next' := by
  refine ext_perform fun scene => ?_
  rw [perform_bind, perform_bind]
  rcases performed : action.perform scene with ⟨fault | value, after⟩
  · rfl
  · dsimp only
    rw [same value (ends.of_ok performed)]

end Ends

end Action

end RecallChat
