import RecallChat.Proofs.Decoding.Strides
import RecallChat.Proofs.Decoding.Requests
import RecallChat.Proofs.Ending

/-!
# Where faults of a decoding come from

Of the faults that a decoding ends with, most are answers of its components: an encoding, the end
token, a run of the graph, a text or a reading of the clock was asked for and failed.  What is left
are faults of the decoding's own, and only those of the look before a step report a text: the one
that is written so far.

`Action.Omits` says that an action makes no request of a chosen kind, and `Action.Blames` that its
faults were answered by components or are its own.  Both are kept by every way of composing actions,
so there is one lemma for each part of a decoding.  The main theorem is `advance_blames`.
-/

set_option autoImplicit false

namespace RecallChat

variable {σ ρ α β γ : Type}

/-! ## What was asked -/

namespace GenerationRequest

/-- The token ids of a request that was answered with their text, and the text. -/
def text? : GenerationRequest → Option (List Int × String)
  | decoding ids (.ok text) => some (ids, text)
  | _ => none

/-- The fault that a request was answered with. -/
def fault? : GenerationRequest → Option Fault
  | encoding _ (.error fault) => some fault
  | ending (.error fault) => some fault
  | run _ _ (.error fault) => some fault
  | decoding _ (.error fault) => some fault
  | reading (.error fault) => some fault
  | _ => none

end GenerationRequest

/-- The texts that were given among requests, with their token ids. -/
def textsGiven (requests : List GenerationRequest) : List (List Int × String) :=
  requests.filterMap GenerationRequest.text?

/-- The faults that requests were answered with. -/
def faultsRaised (requests : List GenerationRequest) : List Fault :=
  requests.filterMap GenerationRequest.fault?

theorem textsGiven_append (earlier later : List GenerationRequest) :
    textsGiven (earlier ++ later) = textsGiven earlier ++ textsGiven later :=
  List.filterMap_append

/-- The text and the number of steps that the fault of a stopped decoding reports. -/
def Fault.partial? : Fault → Option (String × Int)
  | .cancelled _ text steps => some (text, steps)
  | .timedOut _ text steps => some (text, steps)
  | _ => none

namespace Action

/-- An action in a recorded world that is not written down. -/
def unrecorded (action : Action σ α) : Action (Recorded ρ σ) α :=
  action.within Recorded.inner fun inner world => ⟨inner, world.requests⟩

theorem unrecorded_mirrors (action : Action σ α) :
    Mirrors Recorded.inner (action.unrecorded : Action (Recorded ρ σ) α) action :=
  fun _ => rfl

/-! ## Requests that are not made -/

/-- That an action makes no request of a chosen kind. -/
def Omits (choose : ρ → Option γ) (action : Action (Recorded ρ σ) α) : Prop :=
  ∀ scene, (action.perform scene).2.world.requests.filterMap choose =
    scene.world.requests.filterMap choose

namespace Omits

variable {choose : ρ → Option γ}

theorem pure (value : α) : Omits choose (Pure.pure value : Action (Recorded ρ σ) α) :=
  fun _ => rfl

theorem throw (fault : Fault) : Omits choose (throw fault : Action (Recorded ρ σ) α) :=
  fun _ => rfl

theorem log (level : Level) (source : String) (message : Text.CodePoints) :
    Omits choose (Action.log level source message : Action (Recorded ρ σ) Unit) :=
  fun _ => rfl

theorem ofExcept (outcome : Except Fault α) :
    Omits choose (Action.ofExcept outcome : Action (Recorded ρ σ) α) := by
  intro scene
  rw [perform_ofExcept]

theorem unrecorded (action : Action σ α) :
    Omits choose (action.unrecorded : Action (Recorded ρ σ) α) :=
  fun _ => rfl

theorem recorded {note : Except Fault α → ρ} (others : ∀ answer, choose (note answer) = none)
    (action : Action σ α) : Omits choose (action.recorded note) := by
  intro scene
  rw [perform_recorded, List.filterMap_append, List.filterMap_cons, others]
  exact List.append_nil _

theorem bind {action : Action (Recorded ρ σ) α} {next : α → Action (Recorded ρ σ) β}
    (first : Omits choose action) (rest : ∀ value, Omits choose (next value)) :
    Omits choose (action >>= next) := by
  intro scene
  rw [perform_bind]
  have kept := first scene
  rcases performed : action.perform scene with ⟨_ | value, after⟩
  · rw [performed] at kept
    exact kept
  · rw [performed] at kept
    exact (rest value after).trans kept

theorem ite (condition : Prop) [Decidable condition] {yes no : Action (Recorded ρ σ) α}
    (first : Omits choose yes) (second : Omits choose no) :
    Omits choose (if condition then yes else no) := by
  split
  · exact first
  · exact second

end Omits

/-! ## Faults and where they come from -/

/-- That a component has answered with every fault of an action, but for those of its own. -/
def Blames (own : Fault → Prop) (action : Action (Recorded GenerationRequest σ) α) : Prop :=
  ∀ scene fault after, action.perform scene = (.error fault, after) →
    fault ∈ faultsRaised after.world.requests ∨ own fault

namespace Blames

variable {own : Fault → Prop}

theorem pure (value : α) :
    Blames own (Pure.pure value : Action (Recorded GenerationRequest σ) α) := by
  intro scene fault after failed
  cases failed

theorem of_ends {action : Action (Recorded GenerationRequest σ) α}
    (ends : action.Ends (fun _ => True) own) : Blames own action :=
  fun _ _ _ failed => .inr (ends.of_error failed)

theorem recorded {note : Except Fault α → GenerationRequest}
    (noted : ∀ fault, (note (.error fault)).fault? = some fault) (action : Action σ α) :
    Blames own (action.recorded note) := by
  intro scene fault after failed
  obtain ⟨answered, rfl⟩ := Prod.mk.inj failed
  left
  dsimp only
  rw [answered, faultsRaised, List.mem_filterMap]
  exact ⟨_, List.mem_append_right _ (List.mem_singleton.mpr rfl), noted fault⟩

theorem bind {action : Action (Recorded GenerationRequest σ) α}
    {next : α → Action (Recorded GenerationRequest σ) β} (first : Blames own action)
    (rest : ∀ value, Blames own (next value)) : Blames own (action >>= next) := by
  intro scene fault after failed
  rw [perform_bind] at failed
  rcases performed : action.perform scene with ⟨earlier | value, middle⟩
  · rw [performed] at failed
    cases failed
    exact first scene fault after performed
  · rw [performed] at failed
    exact rest value middle fault after failed

theorem ite (condition : Prop) [Decidable condition]
    {yes no : Action (Recorded GenerationRequest σ) α} (first : Blames own yes)
    (second : Blames own no) : Blames own (if condition then yes else no) := by
  split
  · exact first
  · exact second

theorem mono {action : Action (Recorded GenerationRequest σ) α} (blames : Blames own action)
    {own' : Fault → Prop} (weaker : ∀ fault, own fault → own' fault) : Blames own' action :=
  fun scene fault after failed => (blames scene fault after failed).imp_right (weaker fault)

end Blames

end Action

/-! ## Asking and failing, part by part -/

namespace Generator

open RecallChat.Action

variable {generator : Generator σ} {cancelled : Action σ Bool}

section Omitting

variable {choose : GenerationRequest → Option γ}
  (notReading : ∀ answer, choose (.reading answer) = none)

include notReading

theorem deadline_omits : Omits choose generator.recorded.deadline := by
  by_cases unbounded : generator.settings.maxSeconds = .null
  · rw [deadline_of_null generator.recorded unbounded]
    exact .pure none
  · rw [deadline_of_ne_null generator.recorded unbounded]
    exact .bind (.recorded notReading _) fun _ => .ofExcept _

/-- Starting a decoding asks for an encoding and the end token at most, and reads the clock. -/
theorem start_omits (notEncoding : ∀ text answer, choose (.encoding text answer) = none)
    (notEnding : ∀ answer, choose (.ending answer) = none) (prompt : Text.CodePoints)
    (maxTokens : Value) :
    Omits choose (generator.recorded.start prompt maxTokens) :=
  .bind (deadline_omits notReading) fun _ => .bind (.recorded (notEncoding _) _) fun _ =>
    .ite _ (.bind (.throw _) fun _ => .bind (.recorded notEnding _) fun _ => .pure _)
      (.bind (.recorded notEnding _) fun _ => .pure _)

/-- A look before a step reads the clock at most. -/
theorem checkStop_omits (decoding : Decoding) :
    Omits choose (generator.recorded.checkStop cancelled.unrecorded decoding) := by
  unfold checkStop
  cases decoding.deadline with
  | none =>
      exact .bind (.unrecorded _) fun _ => .ite _ (.bind (.throw _) fun _ => .pure ()) (.pure ())
  | some moment =>
      have late (now : Number) : Omits choose
          (if moment.less now then throw (.timedOut
            (.exceeded generator.settings.maxSeconds.display decoding.steps) decoding.text
            decoding.steps) else pure () : Action (Recorded GenerationRequest σ) Unit) :=
        .ite _ (.throw _) (.pure ())
      exact .bind (.unrecorded _) fun _ => .ite _
        (.bind (.throw _) fun _ => .bind (.recorded notReading _) late)
        (.bind (.recorded notReading _) late)

omit notReading in
/-- The choice of a token asks for a run of the graph at most. -/
theorem nextToken_omits (notRun : ∀ feed outputs answer, choose (.run feed outputs answer) = none)
    (tokens : List Int) : Omits choose (generator.recorded.nextToken tokens) :=
  .bind (.ofExcept _) fun _ => .bind (.recorded (notRun _ _) _) fun _ =>
    .bind (.ofExcept _) fun _ => .pure _

end Omitting

section Blaming

/-- That a fault reports what a decoding has written so far, if it reports anything. -/
def Reports (decoding : Decoding) (fault : Fault) : Prop :=
  ∀ report, fault.partial? = some report → report = (decoding.text, (decoding.steps : Int))

theorem reports_of_none (decoding : Decoding) {fault : Fault} (none : fault.partial? = none) :
    Reports decoding fault := by
  intro report some
  rw [none] at some
  cases some

theorem deadline_blames : Blames (fun fault => fault.partial? = none)
    generator.recorded.deadline := by
  by_cases unbounded : generator.settings.maxSeconds = .null
  · rw [deadline_of_null generator.recorded unbounded]
    exact .pure none
  · rw [deadline_of_ne_null generator.recorded unbounded]
    refine .bind (.recorded (fun _ => rfl) _) fun now => .of_ends ?_
    apply Ends.ofExcept
    cases generator.recorded.settings.maxSeconds.number? with
    | none => exact rfl
    | some seconds =>
        dsimp only
        cases now.add? seconds with
        | none => exact rfl
        | some moment => exact trivial

/-- A decoding that cannot be started reports nothing, unless a component does. -/
theorem start_blames (prompt : Text.CodePoints) (maxTokens : Value) :
    Blames (fun fault => fault.partial? = none) (generator.recorded.start prompt maxTokens) := by
  have ended : Blames (fun fault => fault.partial? = none)
      (generator.recorded.tokenizer.endId) := .recorded (fun _ => rfl) _
  have empty : Blames (fun fault => fault.partial? = none)
      (throw (.tokenization .emptyPrompt) : Action (Recorded GenerationRequest σ) Unit) :=
    .of_ends (.throw rfl)
  exact .bind deadline_blames fun _ => .bind (.recorded (fun _ => rfl) _) fun _ =>
    .ite _ (.bind empty fun _ => .bind ended fun _ => .pure _) (.bind ended fun _ => .pure _)

/-- A look before a step stops a decoding with what it has written so far. -/
theorem checkStop_blames (sure : cancelled.Ends (fun _ => True) fun _ => False)
    (decoding : Decoding) :
    Blames (Reports decoding) (generator.recorded.checkStop cancelled.unrecorded decoding) := by
  have looking : Blames (Reports decoding)
      (cancelled.unrecorded : Action (Recorded GenerationRequest σ) Bool) :=
    .of_ends (sure.within _ _).of_sure
  have stop : Blames (Reports decoding)
      (throw (.cancelled (.cancelled decoding.steps) decoding.text decoding.steps) :
        Action (Recorded GenerationRequest σ) Unit) := by
    refine .of_ends (.throw fun report same => ?_)
    exact (Option.some.inj same).symm
  unfold checkStop
  cases decoding.deadline with
  | none => exact .bind looking fun _ => .ite _ (.bind stop fun _ => .pure ()) (.pure ())
  | some moment =>
      have late (now : Number) : Blames (Reports decoding)
          (if moment.less now then throw (.timedOut
            (.exceeded generator.settings.maxSeconds.display decoding.steps) decoding.text
            decoding.steps) else pure () : Action (Recorded GenerationRequest σ) Unit) := by
        refine .ite _ (.of_ends (.throw fun report same => ?_)) (.pure ())
        exact (Option.some.inj same).symm
      have reading : Blames (Reports decoding) generator.recorded.clock :=
        .recorded (fun _ => rfl) _
      exact .bind looking fun _ => .ite _ (.bind stop fun _ => .bind reading late)
        (.bind reading late)

theorem tokenInputs_blames (tokens : List Int) :
    Outcome.Ends (fun _ => True) (fun fault => fault.partial? = none) (tokenInputs tokens) := by
  refine (Outcome.Ends.mapM (fun id => ?_) tokens).map fun _ _ => trivial
  unfold wordOfInt
  split
  · exact trivial
  · exact rfl

theorem requireOutput_blames (outputs : NamedTensors) (name : String) (length : Int) :
    Outcome.Ends (fun _ => True) (fun fault => fault.partial? = none)
      (requireOutput outputs name length) := by
  unfold requireOutput
  split
  · exact rfl
  · split
    · split
      · exact trivial
      · exact rfl
    · exact rfl

/-- A stride reports nothing, unless a component does. -/
theorem stride_blames (generator : Generator σ) (decoding : Decoding) :
    Blames (fun fault => fault.partial? = none) (generator.recorded.stride decoding) := by
  have chosen : Blames (fun fault => fault.partial? = none)
      (generator.recorded.nextToken decoding.tokens) :=
    .bind (.of_ends (.ofExcept (tokenInputs_blames _))) fun _ =>
      .bind (.recorded (fun _ => rfl) _) fun _ =>
        .bind (.of_ends (.ofExcept (requireOutput_blames _ _ _))) fun _ => .pure _
  refine .bind chosen fun id => .ite _ ?_ (.bind (.recorded (fun _ => rfl) _) fun _ => .pure _)
  exact .bind (.of_ends (.log _ _ _)) fun _ => .pure _

/-- A decoding that fails reports what it has written so far, unless a component has failed. -/
theorem advance_blames (sure : cancelled.Ends (fun _ => True) fun _ => False)
    {decoding : Decoding} {budget : Int} (whole : decoding.budget = .whole budget) :
    Blames (Reports decoding) (generator.recorded.advance cancelled.unrecorded decoding) := by
  intro scene fault after failed
  by_cases goesOn : generator.recorded.GoesOn budget decoding
  · rw [perform_advance_of_goesOn _ _ whole goesOn] at failed
    have strode := (stride_blames generator decoding).mono
      fun _ none => reports_of_none decoding none
    exact (Blames.bind (checkStop_blames sure decoding) fun _ => strode) scene fault after failed
  · obtain ⟨reason, stopped⟩ := advance_of_not_goesOn generator.recorded cancelled.unrecorded
      whole goesOn scene
    rw [stopped] at failed
    cases failed

end Blaming

end Generator

end RecallChat
