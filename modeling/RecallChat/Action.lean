import RecallChat.Fault
import RecallChat.Journal

/-!
# Actions

An action changes a world, writes to the journal, and ends with a result or a fault.  What was
changed before a fault stays changed: there is no rollback, so an action that must leave the world
alone when it fails computes first and changes last.
-/

namespace RecallChat

set_option autoImplicit false

/-- A world and the journal beside it. -/
structure Scene (σ : Type) where
  world : σ
  journal : Journal

/-- A step that may change the world, write to the journal, and fail. -/
abbrev Action (σ α : Type) := ExceptT Fault (StateM (Scene σ)) α

namespace Action

variable {σ τ α : Type}

/-- The outcome of an action and the scene it leaves. -/
def perform (action : Action σ α) (scene : Scene σ) : Except Fault α × Scene σ :=
  Id.run (StateT.run (ExceptT.run action) scene)

/-- The world. -/
def world : Action σ σ := do return (← get).world

/-- Put a world in place of the present one. -/
def setWorld (next : σ) : Action σ Unit := modify fun scene => { scene with world := next }

/-- Change the world. -/
def change (f : σ → σ) : Action σ Unit :=
  modify fun scene => { scene with world := f scene.world }

/-- Write a record to the journal. -/
def log (level : Level) (source : String) (message : Text.CodePoints) : Action σ Unit :=
  modify fun scene =>
    { scene with journal := scene.journal.write ⟨level, .ofString source, message⟩ }

/-- The result of a computation that may fail. -/
def ofExcept : Except Fault α → Action σ α
  | .ok value => pure value
  | .error fault => throw fault

/-- An action on a part of the world. -/
def within (part : σ → τ) (put : τ → σ → σ) (action : Action τ α) : Action σ α := fun scene =>
  match action.perform ⟨part scene.world, scene.journal⟩ with
  | (result, inner) => (result, ⟨put inner.world scene.world, inner.journal⟩)

/-- The outcome of an action as a value. -/
def attempt (action : Action σ α) : Action σ (Except Fault α) := fun scene =>
  match action.perform scene with
  | (result, after) => (.ok result, after)

/-! ## Performing

What a composed action does, read off its parts. -/

variable {β : Type}

@[simp]
theorem perform_pure (value : α) (scene : Scene σ) :
    (pure value : Action σ α).perform scene = (.ok value, scene) := rfl

@[simp]
theorem perform_throw (fault : Fault) (scene : Scene σ) :
    (throw fault : Action σ α).perform scene = (.error fault, scene) := rfl

/-- A composed action goes on from where its first part ended, unless that was a fault. -/
@[simp]
theorem perform_bind (action : Action σ α) (next : α → Action σ β) (scene : Scene σ) :
    (action >>= next).perform scene =
      match action.perform scene with
      | (.ok value, after) => (next value).perform after
      | (.error fault, after) => (.error fault, after) := by
  have unfolded : (action >>= next).perform scene =
      (ExceptT.bindCont next (action.perform scene).1) (action.perform scene).2 := rfl
  rw [unfolded]
  rcases action.perform scene with ⟨_ | _, after⟩ <;> rfl

theorem perform_bind_of_ok {action : Action σ α} {next : α → Action σ β} {scene after : Scene σ}
    {value : α} (first : action.perform scene = (.ok value, after)) :
    (action >>= next).perform scene = (next value).perform after := by
  rw [perform_bind, first]

theorem perform_bind_of_error {action : Action σ α} {next : α → Action σ β} {scene after : Scene σ}
    {fault : Fault} (first : action.perform scene = (.error fault, after)) :
    (action >>= next).perform scene = (.error fault, after) := by
  rw [perform_bind, first]

/-- A composed action has a result when its first part has one and the rest has it from there. -/
theorem perform_bind_eq_ok {action : Action σ α} {next : α → Action σ β} {scene after : Scene σ}
    {result : β} :
    (action >>= next).perform scene = (.ok result, after) ↔
      ∃ value middle, action.perform scene = (.ok value, middle) ∧
        (next value).perform middle = (.ok result, after) := by
  rw [perform_bind]
  constructor
  · intro composed
    rcases first : action.perform scene with ⟨_ | value, middle⟩
    · rw [first] at composed
      cases composed
    · rw [first] at composed
      exact ⟨value, middle, rfl, composed⟩
  · rintro ⟨value, middle, first, rest⟩
    rw [first]
    exact rest

@[simp]
theorem perform_map (f : α → β) (action : Action σ α) (scene : Scene σ) :
    (f <$> action).perform scene =
      ((action.perform scene).1.map f, (action.perform scene).2) := by
  rw [map_eq_pure_bind, perform_bind]
  rcases action.perform scene with ⟨_ | _, after⟩ <;> rfl

@[simp]
theorem perform_world (scene : Scene σ) :
    (world : Action σ σ).perform scene = (.ok scene.world, scene) := rfl

@[simp]
theorem perform_setWorld (next : σ) (scene : Scene σ) :
    (setWorld next).perform scene = (.ok (), ⟨next, scene.journal⟩) := rfl

@[simp]
theorem perform_change (f : σ → σ) (scene : Scene σ) :
    (change f).perform scene = (.ok (), ⟨f scene.world, scene.journal⟩) := rfl

@[simp]
theorem perform_log (level : Level) (source : String) (message : Text.CodePoints)
    (scene : Scene σ) : (log level source message : Action σ Unit).perform scene =
      (.ok (), ⟨scene.world, scene.journal.write ⟨level, .ofString source, message⟩⟩) := rfl

@[simp]
theorem perform_ofExcept (outcome : Except Fault α) (scene : Scene σ) :
    (ofExcept outcome : Action σ α).perform scene = (outcome, scene) := by
  cases outcome <;> rfl

theorem perform_ofExcept_eq_ok {outcome : Except Fault α} {scene after : Scene σ} {result : α} :
    (ofExcept outcome : Action σ α).perform scene = (.ok result, after) ↔
      outcome = .ok result ∧ after = scene := by
  rw [perform_ofExcept, Prod.mk.injEq, eq_comm (a := scene)]

@[simp]
theorem perform_within (part : σ → τ) (put : τ → σ → σ) (action : Action τ α) (scene : Scene σ) :
    (action.within part put).perform scene =
      ((action.perform ⟨part scene.world, scene.journal⟩).1,
        ⟨put (action.perform ⟨part scene.world, scene.journal⟩).2.world scene.world,
          (action.perform ⟨part scene.world, scene.journal⟩).2.journal⟩) := rfl

@[simp]
theorem perform_attempt (action : Action σ α) (scene : Scene σ) :
    action.attempt.perform scene = (.ok (action.perform scene).1, (action.perform scene).2) := rfl

/-- Actions that do the same in every scene are the same. -/
theorem ext_perform {action other : Action σ α}
    (same : ∀ scene, action.perform scene = other.perform scene) : action = other :=
  funext same

/-! ## Acting on a part

Acting on a part of the world goes through every way of composing actions, where the part is read
and put as a field of a record is. -/

section Within

variable {part : σ → τ} {put : τ → σ → σ} (put_part : ∀ world, put (part world) world = world)

include put_part

theorem within_pure (value : α) : (pure value : Action τ α).within part put = pure value := by
  refine ext_perform fun scene => ?_
  rw [perform_within, perform_pure, put_part]
  rfl

theorem within_throw (fault : Fault) :
    (throw fault : Action τ α).within part put = throw fault := by
  refine ext_perform fun scene => ?_
  rw [perform_within, perform_throw, put_part]
  rfl

theorem within_ofExcept (outcome : Except Fault α) :
    (ofExcept outcome : Action τ α).within part put = ofExcept outcome := by
  cases outcome with
  | ok value => exact within_pure put_part value
  | error fault => exact within_throw put_part fault

theorem within_log (level : Level) (source : String) (message : Text.CodePoints) :
    (log level source message : Action τ Unit).within part put = log level source message := by
  refine ext_perform fun scene => ?_
  rw [perform_within, perform_log, put_part]
  rfl

omit put_part in
theorem within_bind (part_put : ∀ inner world, part (put inner world) = inner)
    (put_put : ∀ inner inner' world, put inner (put inner' world) = put inner world)
    (action : Action τ α) (next : α → Action τ β) :
    (action >>= next).within part put =
      action.within part put >>= fun value => (next value).within part put := by
  refine ext_perform fun scene => ?_
  rw [perform_bind, perform_within, perform_within, perform_bind]
  rcases action.perform ⟨part scene.world, scene.journal⟩ with ⟨_ | value, after⟩
  · rfl
  · dsimp only
    rw [perform_within, part_put, put_put]

end Within

end Action

end RecallChat
