import RecallChat.Proofs.Ending

/-!
# Steady actions

An action is steady when it ends in the same way in every scene (`Action.Steady`): what it answers
depends on its arguments only, whatever has happened to the world and the journal before.  It may
still change both.

Steadiness is kept by every way of composing actions that does not read the world.  What comes after
a steady action has to be steady only on the results that it can have, so a steady action carries a
predicate that holds of its results, as in `Action.Ends`.
-/

set_option autoImplicit false

namespace RecallChat.Action

variable {σ α β : Type}

/-- That an action ends in the same way in every scene, and with a result of one kind if any. -/
def Steady (kind : α → Prop) (action : Action σ α) : Prop :=
  ∃ outcome, Outcome.Ends kind (fun _ => True) outcome ∧
    ∀ scene, (action.perform scene).1 = outcome

namespace Steady

variable {kind : α → Prop} {action : Action σ α}

/-- A steady action ends everywhere as it does somewhere. -/
theorem eq_of_perform (steady : Steady kind action) {scene after : Scene σ}
    {outcome : Except Fault α} (performed : action.perform scene = (outcome, after))
    (other : Scene σ) : (action.perform other).1 = outcome := by
  obtain ⟨always, _, same⟩ := steady
  have here := same scene
  rw [performed] at here
  exact (same other).trans here.symm

/-- The results of a steady action are of its kind. -/
theorem of_ok (steady : Steady kind action) {scene after : Scene σ} {value : α}
    (performed : action.perform scene = (.ok value, after)) : kind value := by
  obtain ⟨always, ends, same⟩ := steady
  have here := same scene
  rw [performed] at here
  rw [← here] at ends
  exact ends

theorem mono (steady : Steady kind action) {kind' : α → Prop}
    (results : ∀ value, kind value → kind' value) : Steady kind' action := by
  obtain ⟨outcome, ends, same⟩ := steady
  refine ⟨outcome, ?_, same⟩
  cases outcome with
  | error fault => exact trivial
  | ok value => exact results value ends

theorem pure {value : α} (holds : kind value) :
    Steady kind (Pure.pure value : Action σ α) :=
  ⟨.ok value, holds, fun _ => rfl⟩

theorem throw (fault : Fault) : Steady kind (throw fault : Action σ α) :=
  ⟨.error fault, trivial, fun _ => rfl⟩

theorem log (level : Level) (source : String) (message : Text.CodePoints) :
    Steady (fun _ => True) (Action.log level source message : Action σ Unit) :=
  ⟨.ok (), trivial, fun _ => rfl⟩

theorem ofExcept (outcome : Except Fault α) :
    Steady (fun _ => True) (Action.ofExcept outcome : Action σ α) := by
  refine ⟨outcome, ?_, fun scene => ?_⟩
  · cases outcome with
    | error fault => exact trivial
    | ok value => exact trivial
  · rw [perform_ofExcept]

/-- What comes after a steady action has to be steady on the results that it can have. -/
theorem bind (first : Steady kind action) {next : α → Action σ β} {kind' : β → Prop}
    (rest : ∀ value, kind value → Steady kind' (next value)) : Steady kind' (action >>= next) := by
  obtain ⟨outcome, ends, same⟩ := first
  cases outcome with
  | error fault =>
      refine ⟨.error fault, trivial, fun scene => ?_⟩
      have failed : action.perform scene = (.error fault, (action.perform scene).2) :=
        Prod.ext (same scene) rfl
      rw [perform_bind_of_error failed]
  | ok value =>
      obtain ⟨final, ends', same'⟩ := rest value ends
      refine ⟨final, ends', fun scene => ?_⟩
      have succeeded : action.perform scene = (.ok value, (action.perform scene).2) :=
        Prod.ext (same scene) rfl
      rw [perform_bind_of_ok succeeded]
      exact same' _

theorem ite (condition : Prop) [Decidable condition] {yes no : Action σ α}
    (first : Steady kind yes) (second : Steady kind no) :
    Steady kind (if condition then yes else no) := by
  split
  · exact first
  · exact second

theorem map (steady : Steady kind action) {f : α → β} {kind' : β → Prop}
    (results : ∀ value, kind value → kind' (f value)) : Steady kind' (f <$> action) := by
  rw [map_eq_pure_bind]
  exact steady.bind fun value holds => .pure (results value holds)

/-- An attempted action always has a result, which is how the action ended. -/
theorem attempt (steady : Steady kind action) :
    Steady (Outcome.Ends kind fun _ => True) action.attempt := by
  obtain ⟨outcome, ends, same⟩ := steady
  refine ⟨.ok outcome, ends, fun scene => ?_⟩
  rw [perform_attempt, same scene]

end Steady

end RecallChat.Action
