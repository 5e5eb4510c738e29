import RecallChat.Conversation
import RecallChat.Generation

/-!
# Recorded components

What a program asks of its components, and what they answer, shows when the components write it
down.  A recorded world is a world with the list of these requests beside it, and a recorded action
does what the action does and adds one request with its outcome.

Recording changes nothing else.  An action in a larger world mirrors an action in a part of it when
it has the same outcome and does the same to that part (`Action.Mirrors`).  Recorded actions mirror
the plain ones, and mirroring is kept by every way of composing actions, so a program over recorded
components mirrors the program itself.
-/

set_option autoImplicit false

namespace RecallChat

/-- A world with the requests made of components in it, oldest first. -/
structure Recorded (ρ σ : Type) where
  inner : σ
  requests : List ρ

namespace Action

variable {ρ σ τ α β : Type}

/-- An action that adds itself to the requests, with its outcome. -/
def recorded (note : Except Fault α → ρ) (action : Action σ α) : Action (Recorded ρ σ) α :=
  fun scene =>
    match action.perform ⟨scene.world.inner, scene.journal⟩ with
    | (outcome, after) =>
      (outcome, ⟨⟨after.world, scene.world.requests ++ [note outcome]⟩, after.journal⟩)

@[simp]
theorem perform_recorded (note : Except Fault α → ρ) (action : Action σ α)
    (scene : Scene (Recorded ρ σ)) :
    (action.recorded note).perform scene =
      ((action.perform ⟨scene.world.inner, scene.journal⟩).1,
        ⟨⟨(action.perform ⟨scene.world.inner, scene.journal⟩).2.world,
          scene.world.requests ++
            [note (action.perform ⟨scene.world.inner, scene.journal⟩).1]⟩,
          (action.perform ⟨scene.world.inner, scene.journal⟩).2.journal⟩) := rfl

theorem perform_recorded_of {note : Except Fault α → ρ} {action : Action σ α} {inner : σ}
    {journal : Journal} {outcome : Except Fault α} {after : Scene σ} (requests : List ρ)
    (performed : action.perform ⟨inner, journal⟩ = (outcome, after)) :
    (action.recorded note).perform ⟨⟨inner, requests⟩, journal⟩ =
      (outcome, ⟨⟨after.world, requests ++ [note outcome]⟩, after.journal⟩) := by
  rw [perform_recorded]
  dsimp only
  rw [performed]

/-! ## Mirroring -/

/-- The scene of a part of the world. -/
def sceneOf (part : τ → σ) (scene : Scene τ) : Scene σ := ⟨part scene.world, scene.journal⟩

/-- An action in a larger world that does what an action in a part of it does. -/
def Mirrors (part : τ → σ) (outer : Action τ α) (inner : Action σ α) : Prop :=
  ∀ scene : Scene τ,
    inner.perform (sceneOf part scene) =
      ((outer.perform scene).1, sceneOf part (outer.perform scene).2)

namespace Mirrors

variable {part : τ → σ}

theorem pure (value : α) :
    Mirrors part (Pure.pure value : Action τ α) (Pure.pure value : Action σ α) :=
  fun _ => rfl

theorem throw (fault : Fault) :
    Mirrors part (throw fault : Action τ α) (throw fault : Action σ α) :=
  fun _ => rfl

theorem log (level : Level) (source : String) (message : Text.CodePoints) :
    Mirrors part (Action.log level source message) (Action.log level source message) :=
  fun _ => rfl

theorem ofExcept (outcome : Except Fault α) :
    Mirrors part (Action.ofExcept outcome) (Action.ofExcept outcome) := by
  intro scene
  rw [perform_ofExcept, perform_ofExcept]

theorem recorded (note : Except Fault α → ρ) (action : Action σ α) :
    Mirrors Recorded.inner (action.recorded note) action :=
  fun _ => rfl

theorem bind {outer : Action τ α} {inner : Action σ α} (first : Mirrors part outer inner)
    {outerNext : α → Action τ β} {innerNext : α → Action σ β}
    (next : ∀ value, Mirrors part (outerNext value) (innerNext value)) :
    Mirrors part (outer >>= outerNext) (inner >>= innerNext) := by
  intro scene
  rw [perform_bind, perform_bind, first scene]
  rcases outer.perform scene with ⟨_ | value, after⟩
  · rfl
  · exact next value after

theorem map (f : α → β) {outer : Action τ α} {inner : Action σ α}
    (mirrors : Mirrors part outer inner) : Mirrors part (f <$> outer) (f <$> inner) := by
  intro scene
  rw [perform_map, perform_map, mirrors scene]

theorem ite (condition : Prop) [Decidable condition] {yes no : Action τ α} {yes' no' : Action σ α}
    (first : Mirrors part yes yes') (second : Mirrors part no no') :
    Mirrors part (if condition then yes else no) (if condition then yes' else no') := by
  split
  · exact first
  · exact second

theorem attempt {outer : Action τ α} {inner : Action σ α} (mirrors : Mirrors part outer inner) :
    Mirrors part outer.attempt inner.attempt := by
  intro scene
  rw [perform_attempt, perform_attempt, mirrors scene]

/-- Reading the world, where only the part matters for what comes next. -/
theorem world {outerNext : τ → Action τ α} {innerNext : σ → Action σ α}
    (next : ∀ world, Mirrors part (outerNext world) (innerNext (part world))) :
    Mirrors part (Action.world >>= outerNext) (Action.world >>= innerNext) := by
  intro scene
  rw [perform_bind, perform_bind]
  exact next scene.world scene

theorem change {outer : τ → τ} {inner : σ → σ}
    (same : ∀ world, part (outer world) = inner (part world)) :
    Mirrors part (Action.change outer) (Action.change inner) := by
  intro scene
  rw [perform_change, perform_change, sceneOf, sceneOf, same]

end Mirrors

end Action

end RecallChat
