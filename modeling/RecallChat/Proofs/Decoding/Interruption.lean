import RecallChat.Proofs.Decoding.Law

/-!
# Interrupted decodings

A decoding can be cancelled from outside and can have a deadline.  Both are looked at before every
step: first the event that cancels, and, unless it is set, the clock.  A `Watch` is any history of
the event and any sequence of readings, and `Watch.stopAt` says what the look before a step finds.

The watched decoding is compared with the same decoding without event and deadline
(`Generator.unbounded`).  It makes the same strides up to the first look that finds something, and
ends there with what the other has written so far; when no look before a step of the other finds
anything, both do the same.  The main theorem is `generateDetailed_watched`.
-/

set_option autoImplicit false

namespace RecallChat

/-! ## Watching -/

/-- A history of the cancel event, look by look, and a sequence of readings of the clock. -/
structure Watch where
  event : Nat → Bool
  clock : Nat → Double

/-- A world with the number of looks at the event and of readings of the clock so far. -/
structure Watched (σ : Type) where
  inner : σ
  looks : Nat
  readings : Nat

namespace Watched

variable {σ : Type}

/-- The watched world with another world inside. -/
def setInner (inner : σ) (world : Watched σ) : Watched σ := { world with inner := inner }

theorem inner_setInner (inner : σ) (world : Watched σ) : (setInner inner world).inner = inner := rfl

theorem setInner_inner (world : Watched σ) : setInner world.inner world = world := rfl

theorem setInner_setInner (inner inner' : σ) (world : Watched σ) :
    setInner inner (setInner inner' world) = setInner inner world := rfl

end Watched

/-- What stops a decoding from outside. -/
inductive Stop where
  | cancelled
  | timedOut
  deriving DecidableEq, Repr

/-- The fault that stops a decoding. -/
def Stop.fault (settings : GenerationSettings) (decoding : Decoding) : Stop → Fault
  | cancelled => .cancelled (.cancelled decoding.steps) decoding.text decoding.steps
  | timedOut =>
    .timedOut (.exceeded settings.maxSeconds.display decoding.steps) decoding.text decoding.steps

/-- Whether the bound of the settings on the seconds of a decoding is the given one. -/
def GenerationSettings.Allows (settings : GenerationSettings) : Option Double → Prop
  | none => settings.maxSeconds = .null
  | some seconds => settings.maxSeconds.number?.bind Number.toReal? = some seconds

namespace Watch

variable {σ : Type} (watch : Watch)

/-- A look at the event. -/
def cancelled : Action (Watched σ) Bool := do
  let watched ← Action.world
  Action.setWorld { watched with looks := watched.looks + 1 }
  return watch.event watched.looks

/-- A reading of the clock. -/
def reading : Action (Watched σ) Number := do
  let watched ← Action.world
  Action.setWorld { watched with readings := watched.readings + 1 }
  return .real (watch.clock watched.readings)

/-- The moment when a decoding with a bound on its seconds has to be over: so many seconds after the
first reading. -/
def deadline (seconds : Option Double) : Option Number :=
  seconds.map fun seconds => .real ((watch.clock 0).add seconds)

/-- What the look before step number `count` finds, where steps count from zero: the event, or else
a reading after the deadline. -/
def stopAt (seconds : Option Double) (count : Nat) : Option Stop :=
  if watch.event count then some .cancelled
  else
    match watch.deadline seconds with
    | none => none
    | some moment =>
      if moment.less (.real (watch.clock (count + 1))) then some .timedOut else none

end Watch

namespace Generator

variable {σ : Type}

/-- The generator without a bound on its seconds. -/
def unbounded (generator : Generator σ) : Generator σ :=
  { generator with settings := { generator.settings with maxSeconds := .null } }

/-- The generator in a watched world, with the clock of the watch. -/
def watched (generator : Generator σ) (watch : Watch) : Generator (Watched σ) where
  graph := ⟨fun feed outputs => (generator.graph.run feed outputs).within Watched.inner
    Watched.setInner⟩
  tokenizer := generator.tokenizer.within Watched.inner Watched.setInner
  clock := watch.reading
  settings := generator.settings

end Generator

/-- The decoding with a deadline. -/
def Decoding.until (decoding : Decoding) (deadline : Option Number) : Decoding :=
  { decoding with deadline := deadline }

/-- The progress with a deadline for the rest. -/
def Progress.until (deadline : Option Number) : Progress → Progress
  | piece text next => .piece text (next.until deadline)
  | done result => .done result

/-- A watched scene without any look or reading so far. -/
def Watch.fresh {σ : Type} (scene : Scene σ) : Scene (Watched σ) :=
  ⟨⟨scene.world, 0, 0⟩, scene.journal⟩

/-- The watched scene before the look at a step number. -/
def Watch.before {σ : Type} (seconds : Option Double) (count : Nat) (scene : Scene σ) :
    Scene (Watched σ) :=
  ⟨⟨scene.world, count, if seconds.isSome then count + 1 else 0⟩, scene.journal⟩

/-! ## Watched parts -/

section Parts

variable {σ α β : Type}

namespace Action

/-- An action in the world inside a watched one. -/
def inside (action : Action σ α) : Action (Watched σ) α :=
  action.within Watched.inner Watched.setInner

theorem inside_pure (value : α) : (pure value : Action σ α).inside = pure value :=
  within_pure Watched.setInner_inner value

theorem inside_log (level : Level) (source : String) (message : Text.CodePoints) :
    (log level source message : Action σ Unit).inside = log level source message :=
  within_log Watched.setInner_inner level source message

theorem inside_ofExcept (outcome : Except Fault α) :
    (ofExcept outcome : Action σ α).inside = ofExcept outcome :=
  within_ofExcept Watched.setInner_inner outcome

theorem inside_throw (fault : Fault) : (throw fault : Action σ α).inside = throw fault :=
  within_throw Watched.setInner_inner fault

theorem inside_bind (action : Action σ α) (next : α → Action σ β) :
    (action >>= next).inside = action.inside >>= fun value => (next value).inside :=
  within_bind Watched.inner_setInner Watched.setInner_setInner action next

/-- An action inside leaves the looks and the readings as they are. -/
theorem perform_inside (action : Action σ α) (seconds : Option Double) (count : Nat)
    (scene : Scene σ) :
    action.inside.perform (Watch.before seconds count scene) =
      ((action.perform scene).1, Watch.before seconds count (action.perform scene).2) := rfl

end Action

open RecallChat.Action

variable (generator : Generator σ) (watch : Watch)

theorem nextToken_watched (tokens : List Int) :
    (generator.watched watch).nextToken tokens = (generator.nextToken tokens).inside := by
  unfold Generator.nextToken
  simp only [inside_bind, inside_ofExcept, inside_pure]
  rfl

/-- A stride is the same in a watched world and under a deadline. -/
theorem stride_watched (deadline : Option Number) (decoding : Decoding) :
    (generator.watched watch).stride (decoding.until deadline) =
      (generator.stride decoding >>= fun progress => pure (progress.until deadline)).inside := by
  unfold Generator.stride
  rw [bind_assoc, inside_bind, ← nextToken_watched generator watch]
  refine congrArg (_ >>= ·) (funext fun id => ?_)
  by_cases last : id = decoding.endId
  · rw [if_pos last, if_pos (show id = (decoding.until deadline).endId from last)]
    unfold Generator.finish
    simp only [bind_assoc, pure_bind, inside_bind, inside_log, inside_pure]
    rfl
  · rw [if_neg last, if_neg (show ¬ id = (decoding.until deadline).endId from last)]
    simp only [bind_assoc, pure_bind, inside_bind, inside_pure]
    rfl

theorem perform_stride_watched (deadline : Option Number) (decoding : Decoding)
    (seconds : Option Double) (count : Nat) (scene : Scene σ) :
    ((generator.watched watch).stride (decoding.until deadline)).perform
        (Watch.before seconds count scene) =
      (((generator.stride decoding).perform scene).1.map (Progress.until deadline),
        Watch.before seconds count ((generator.stride decoding).perform scene).2) := by
  rw [stride_watched, perform_inside, perform_bind]
  rcases (generator.stride decoding).perform scene with ⟨_ | _, after⟩ <;> rfl

/-! ## Looking -/

/-- A look stops the decoding exactly where the watch says so. -/
theorem perform_checkStop_watched (seconds : Option Double) (decoding : Decoding) (count : Nat)
    (scene : Scene σ) :
    ∃ looked, sceneOf Watched.inner looked = scene ∧
      ((generator.watched watch).checkStop watch.cancelled
          (decoding.until (watch.deadline seconds))).perform (Watch.before seconds count scene) =
        match watch.stopAt seconds count with
        | some stop => (.error (stop.fault generator.settings decoding), looked)
        | none => (.ok (), Watch.before seconds (count + 1) scene) := by
  have looking : watch.cancelled.perform (Watch.before seconds count scene) =
      (.ok (watch.event count),
        ⟨{ (Watch.before seconds count scene).world with looks := count + 1 }, scene.journal⟩) :=
    rfl
  cases set : watch.event count with
  | true =>
      have found : watch.stopAt seconds count = some .cancelled := by
        rw [Watch.stopAt, if_pos set]
      rw [Generator.checkStop, perform_bind, looking, set, found]
      exact ⟨_, rfl, rfl⟩
  | false =>
      rw [Generator.checkStop, perform_bind, looking, set]
      cases seconds with
      | none =>
          have found : watch.stopAt none count = none := by
            rw [Watch.stopAt, set]
            rfl
          rw [found]
          exact ⟨Watch.before none count scene, rfl, rfl⟩
      | some seconds =>
          let moment := Number.real ((watch.clock 0).add seconds)
          let now := Number.real (watch.clock (count + 1))
          have found : watch.stopAt (some seconds) count =
              if moment.less now then some .timedOut else none := by
            rw [Watch.stopAt, set]
            rfl
          have reading : watch.reading.perform
              ⟨⟨scene.world, count + 1, count + 1⟩, scene.journal⟩ =
                (.ok now, ⟨⟨scene.world, count + 1, count + 2⟩, scene.journal⟩) := rfl
          refine ⟨⟨⟨scene.world, count + 1, count + 2⟩, scene.journal⟩, rfl, ?_⟩
          change (watch.reading >>= fun now =>
            if moment.less now = true then
              throw (Stop.timedOut.fault generator.settings decoding) else pure ()).perform
                ⟨⟨scene.world, count + 1, count + 1⟩, scene.journal⟩ = _
          rw [perform_bind, reading, found]
          by_cases late : moment.less now = true
          · simp only [if_pos late]
            rfl
          · simp only [if_neg late]
            rfl

/-! ## Strides under watch -/

/-- A watched decoding that goes on looks first, and makes the same stride unless that stops it. -/
theorem perform_advance_watched {budget : Int} {decoding : Decoding}
    (whole : decoding.budget = .whole budget) (goesOn : generator.GoesOn budget decoding)
    (seconds : Option Double) (count : Nat) (scene : Scene σ) :
    ∃ looked, sceneOf Watched.inner looked = scene ∧
      ((generator.watched watch).advance watch.cancelled
          (decoding.until (watch.deadline seconds))).perform (Watch.before seconds count scene) =
        match watch.stopAt seconds count with
        | some stop => (.error (stop.fault generator.settings decoding), looked)
        | none =>
          (((generator.stride decoding).perform scene).1.map
              (Progress.until (watch.deadline seconds)),
            Watch.before seconds (count + 1) ((generator.stride decoding).perform scene).2) := by
  obtain ⟨looked, same, checked⟩ :=
    perform_checkStop_watched generator watch seconds decoding count scene
  refine ⟨looked, same, ?_⟩
  have whole' : (decoding.until (watch.deadline seconds)).budget = .whole budget := whole
  have goesOn' : (generator.watched watch).GoesOn budget
      (decoding.until (watch.deadline seconds)) := goesOn
  rw [Generator.perform_advance_of_goesOn _ _ whole' goesOn', perform_bind, checked]
  cases watch.stopAt seconds count with
  | some stop => rfl
  | none => exact perform_stride_watched generator watch _ decoding seconds (count + 1) scene

/-- Where a decoding does not go on, a watched one ends as it does. -/
theorem perform_advance_watched_stops {budget : Int} {decoding : Decoding}
    (whole : decoding.budget = .whole budget) (stops : ¬ generator.GoesOn budget decoding)
    (seconds : Option Double) (count : Nat) (scene : Scene σ) :
    ((generator.watched watch).advance watch.cancelled
        (decoding.until (watch.deadline seconds))).perform (Watch.before seconds count scene) =
      (((generator.unbounded.advance (pure false) decoding).perform scene).1.map
          (Progress.until (watch.deadline seconds)),
        Watch.before seconds count
          ((generator.unbounded.advance (pure false) decoding).perform scene).2) := by
  have whole' : (decoding.until (watch.deadline seconds)).budget = .whole budget := whole
  cases newline : generator.unbounded.atNewline decoding with
  | true =>
      have newline' : (generator.watched watch).atNewline
          (decoding.until (watch.deadline seconds)) = true := newline
      rw [Generator.perform_advance_of_newline _ _ newline,
        Generator.perform_advance_of_newline _ _ newline']
      rfl
  | false =>
      have spent : budget ≤ decoding.steps := Int.not_lt.mp fun below => stops ⟨newline, below⟩
      have newline' : (generator.watched watch).atNewline
          (decoding.until (watch.deadline seconds)) = false := newline
      rw [Generator.perform_advance_of_spent _ _ whole newline spent,
        Generator.perform_advance_of_spent _ _ whole' newline' spent]
      rfl

/-- Where a decoding ends, a watched one ends as it does unless it is stopped before a step. -/
theorem perform_advance_watched_ends {budget : Int} {decoding : Decoding}
    (whole : decoding.budget = .whole budget) (free : decoding.deadline = none)
    {seconds : Option Double} {count : Nat} {scene after : Scene σ}
    {outcome : Except Fault Generated}
    (unstopped : generator.GoesOn budget decoding → watch.stopAt seconds count = none)
    (ended : (generator.unbounded.advance (pure false) decoding).perform scene =
      (outcome.map Progress.done, after)) :
    ∃ looked, sceneOf Watched.inner looked = after ∧
      ((generator.watched watch).advance watch.cancelled
          (decoding.until (watch.deadline seconds))).perform (Watch.before seconds count scene) =
        (outcome.map Progress.done, looked) := by
  have same : (outcome.map Progress.done).map (Progress.until (watch.deadline seconds)) =
      outcome.map Progress.done := by
    cases outcome <;> rfl
  by_cases goesOn : generator.GoesOn budget decoding
  · obtain ⟨_, _, advanced⟩ :=
      perform_advance_watched generator watch whole goesOn seconds count scene
    have strode : (generator.stride decoding).perform scene = (outcome.map Progress.done, after) :=
      (Generator.perform_advance_free generator.unbounded whole free goesOn scene).symm.trans ended
    rw [unstopped goesOn, strode] at advanced
    dsimp only at advanced
    rw [same] at advanced
    exact ⟨_, rfl, advanced⟩
  · have advanced := perform_advance_watched_stops generator watch whole goesOn seconds count scene
    rw [ended] at advanced
    dsimp only at advanced
    rw [same] at advanced
    exact ⟨_, rfl, advanced⟩

/-- **A watched decoding makes the strides of the other as long as no look stops it.** -/
theorem drain_strides_watched {budget : Int} {first last : Decoding} {start after : Scene σ}
    {count : Nat} (strides : generator.Strides budget first start count last after)
    (whole : first.budget = .whole budget) (seconds : Option Double)
    (unstopped : ∀ earlier < count, watch.stopAt seconds earlier = none) (fuel : Nat)
    (pieces : List String) :
    ∃ pieces', (Prod.snd <$> (generator.watched watch).drain watch.cancelled (fuel + count)
          (first.until (watch.deadline seconds)) pieces).perform (Watch.before seconds 0 start) =
      (Prod.snd <$> (generator.watched watch).drain watch.cancelled fuel
        (last.until (watch.deadline seconds)) pieces').perform
          (Watch.before seconds count after) := by
  induction strides generalizing fuel with
  | none => exact ⟨pieces, rfl⟩
  | @more count decoding next text scene after strides goesOn piece ih =>
      obtain ⟨pieces', drained⟩ :=
        ih (fun earlier below => unstopped earlier (Nat.lt_succ_of_lt below)) (fuel + 1)
      obtain ⟨_, _, advanced⟩ := perform_advance_watched generator watch
        (strides.kept.2.1.trans whole) goesOn seconds count scene
      rw [unstopped count (Nat.lt_succ_self count), piece] at advanced
      have regrouped : fuel + (count + 1) = fuel + 1 + count := by omega
      refine ⟨pieces' ++ [text], ?_⟩
      rw [regrouped, drained]
      exact Generator.perform_drain_piece _ _ _ _ advanced

end Parts

/-! ## Whole decodings -/

namespace Generator

open RecallChat.Action

variable {σ : Type} (generator : Generator σ) (watch : Watch)

/-- A decoding before its first step, given its deadline. -/
def prepare (prompt : Text.CodePoints) (maxTokens : Value) (deadline : Option Number) :
    Action σ Decoding := do
  let tokens ← generator.tokenizer.encode (.ofPoints prompt)
  if tokens.isEmpty then throw (.tokenization .emptyPrompt)
  let endId ← generator.tokenizer.endId
  return ⟨tokens, [], "", 0, generator.budget maxTokens, deadline, endId⟩

theorem start_eq (prompt : Text.CodePoints) (maxTokens : Value) :
    generator.start prompt maxTokens =
      generator.deadline >>= generator.prepare prompt maxTokens := rfl

theorem prepare_watched (prompt : Text.CodePoints) (maxTokens : Value) (deadline : Option Number) :
    (generator.watched watch).prepare prompt maxTokens deadline =
      (generator.prepare prompt maxTokens none >>= fun decoding =>
        pure (decoding.until deadline)).inside := by
  unfold prepare
  rw [bind_assoc, inside_bind]
  refine congrArg (_ >>= ·) (funext fun tokens => ?_)
  by_cases empty : tokens.isEmpty = true
  · simp only [if_pos empty]
    exact (inside_throw _).symm
  · simp only [if_neg empty, bind_assoc, pure_bind, inside_bind, inside_pure]
    rfl

theorem real_add?_of_toReal? {x y : Double} {number : Number} (isReal : number.toReal? = some y) :
    (Number.real x).add? number = some (.real (x.add y)) := by
  have added : (Number.real x).add? number =
      number.toReal?.bind fun real => some (.real (x.add real)) := by
    cases number with
    | integer n => rfl
    | real y => rfl
  rw [added, isReal]
  rfl

/-- The deadline comes from the first reading of the clock, which is taken only if there is one. -/
theorem perform_deadline_watched {seconds : Option Double}
    (allows : generator.settings.Allows seconds) (scene : Scene σ) :
    (generator.watched watch).deadline.perform (Watch.fresh scene) =
      (.ok (watch.deadline seconds), Watch.before seconds 0 scene) := by
  cases seconds with
  | none =>
      rw [deadline_of_null (generator.watched watch) allows]
      rfl
  | some seconds =>
      obtain ⟨number, isNumber, isReal⟩ := Option.bind_eq_some_iff.mp allows
      have bounded : generator.settings.maxSeconds ≠ .null := by
        intro unbounded
        rw [unbounded] at isNumber
        cases isNumber
      have reading : (generator.watched watch).clock.perform (Watch.fresh scene) =
          (.ok (.real (watch.clock 0)), Watch.before (some seconds) 0 scene) := rfl
      rw [deadline_of_ne_null (generator.watched watch) bounded, perform_bind, reading]
      dsimp only [watched]
      rw [isNumber]
      dsimp only
      rw [real_add?_of_toReal? isReal]
      rfl

theorem perform_start_watched {seconds : Option Double}
    (allows : generator.settings.Allows seconds) (prompt : Text.CodePoints) (maxTokens : Value)
    (scene : Scene σ) :
    ((generator.watched watch).start prompt maxTokens).perform (Watch.fresh scene) =
      (((generator.unbounded.start prompt maxTokens).perform scene).1.map
          (fun decoding => decoding.until (watch.deadline seconds)),
        Watch.before seconds 0 ((generator.unbounded.start prompt maxTokens).perform scene).2) := by
  rw [start_eq, perform_bind, perform_deadline_watched generator watch allows]
  dsimp only
  rw [prepare_watched, perform_inside, perform_bind]
  have unbounded : generator.unbounded.start prompt maxTokens =
      generator.prepare prompt maxTokens none := rfl
  rw [unbounded]
  rcases (generator.prepare prompt maxTokens none).perform scene with ⟨_ | _, after⟩ <;> rfl

/-- That a decoding begins step number `count`, where steps count from zero: it has neither stopped
nor failed before, it goes on, and it has come to `decoding` in the scene `middle`. -/
def BeginsStep (prompt : Text.CodePoints) (maxTokens : Value) (budget : Int) (scene : Scene σ)
    (count : Nat) (decoding : Decoding) (middle : Scene σ) : Prop :=
  ∃ first start, (generator.start prompt maxTokens).perform scene = (.ok first, start) ∧
    generator.Strides budget first start count decoding middle ∧
    generator.GoesOn budget decoding

theorem strides_of_unbounded {budget : Int} {first last : Decoding} {start after : Scene σ}
    {count : Nat} (strides : generator.unbounded.Strides budget first start count last after) :
    generator.Strides budget first start count last after := by
  induction strides with
  | none => exact .none
  | more _ goesOn piece ih => exact .more ih goesOn piece

theorem start_unbounded {prompt : Text.CodePoints} {maxTokens : Value} {scene after : Scene σ}
    {decoding : Decoding}
    (started : (generator.unbounded.start prompt maxTokens).perform scene = (.ok decoding, after)) :
    decoding.steps = 0 ∧ decoding.budget = generator.budget maxTokens ∧
      decoding.deadline = none := by
  change (generator.prepare prompt maxTokens none).perform scene = _ at started
  obtain ⟨tokens, _, _, afterTokens⟩ := perform_bind_eq_ok.mp started
  by_cases empty : tokens.isEmpty = true
  · rw [if_pos empty] at afterTokens
    cases afterTokens
  · rw [if_neg empty] at afterTokens
    obtain ⟨_, _, _, given⟩ := perform_bind_eq_ok.mp afterTokens
    cases given
    exact ⟨rfl, rfl, rfl⟩

/-- That the first look that finds something, `stop`, is taken before step number `count`, which the
decoding without event and deadline begins with `decoding` in the scene `middle`. -/
structure CutAt (seconds : Option Double) (prompt : Text.CodePoints) (maxTokens : Value)
    (budget : Int) (scene : Scene σ) (count : Nat) (decoding : Decoding) (middle : Scene σ)
    (stop : Stop) : Prop where
  begins : generator.unbounded.BeginsStep prompt maxTokens budget scene count decoding middle
  unstopped : ∀ earlier < count, watch.stopAt seconds earlier = none
  found : watch.stopAt seconds count = some stop

section Whole

variable {generator watch} {prompt : Text.CodePoints} {maxTokens : Value} {budget : Int}
  {seconds : Option Double} {scene middle : Scene σ} {count : Nat} {decoding : Decoding}

/-- A decoding that begins a step has begun every step before it. -/
theorem BeginsStep.earlier
    (begins : generator.BeginsStep prompt maxTokens budget scene count decoding middle)
    {position : Nat} (below : position < count) :
    ∃ decoding middle,
      generator.BeginsStep prompt maxTokens budget scene position decoding middle := by
  obtain ⟨first, start, started, strides, _⟩ := begins
  obtain ⟨decoding, middle, strides', goesOn⟩ := strides.earlier below
  exact ⟨decoding, middle, first, start, started, strides', goesOn⟩

theorem BeginsStep.steps_eq
    (begins : generator.unbounded.BeginsStep prompt maxTokens budget scene count decoding middle) :
    decoding.steps = count := by
  obtain ⟨first, start, started, strides, _⟩ := begins
  rw [strides.steps_eq, (start_unbounded generator started).1, Nat.zero_add]

/-- A decoding that is cut nowhere has no look before a step that finds anything. -/
theorem stopAt_of_not_cutAt
    (uncut : ∀ count decoding middle stop,
      ¬ generator.CutAt watch seconds prompt maxTokens budget scene count decoding middle stop)
    (begins : generator.unbounded.BeginsStep prompt maxTokens budget scene count decoding middle) :
    watch.stopAt seconds count = none := by
  induction count using Nat.strongRecOn generalizing decoding middle with
  | ind count ih =>
      have unstopped : ∀ earlier < count, watch.stopAt seconds earlier = none := by
        intro position below
        obtain ⟨decoding', middle', begins'⟩ := begins.earlier below
        exact ih position below begins'
      cases found : watch.stopAt seconds count with
      | none => rfl
      | some stop => exact absurd ⟨begins, unstopped, found⟩ (uncut count decoding middle stop)

/-- The first look that finds something stops the watched decoding there. -/
theorem watched_of_cutAt (whole : generator.budget maxTokens = .whole budget)
    (allows : generator.settings.Allows seconds) {stop : Stop}
    (cut : generator.CutAt watch seconds prompt maxTokens budget scene count decoding middle stop) :
    ∃ looked, sceneOf Watched.inner looked = middle ∧
      ((generator.watched watch).generateDetailed prompt maxTokens watch.cancelled).perform
          (Watch.fresh scene) =
        (.error (stop.fault generator.settings decoding), looked) := by
  obtain ⟨first, start, started, strides, goesOn⟩ := cut.begins
  obtain ⟨noSteps, sameBudget, _⟩ := start_unbounded generator started
  have wholeBudget := sameBudget.trans whole
  have enough : (first.until (watch.deadline seconds)).budget.steps + 1 =
      budget.toNat - count + 1 + count := by
    have steps := strides.steps_eq
    have below := goesOn.2
    change first.budget.steps + 1 = _
    rw [wholeBudget, Limit.steps]
    omega
  obtain ⟨pieces, drained⟩ := drain_strides_watched generator watch
    (strides_of_unbounded generator strides) wholeBudget seconds cut.unstopped
    (budget.toNat - count + 1) []
  obtain ⟨looked, same, advanced⟩ := perform_advance_watched generator watch
    (strides.kept.2.1.trans wholeBudget) goesOn seconds count middle
  rw [cut.found] at advanced
  refine ⟨looked, same, ?_⟩
  rw [generateDetailed_eq, perform_bind, perform_start_watched generator watch allows, started]
  dsimp only [Except.map]
  rw [enough, drained]
  exact perform_drain_ended _ _ _ _ advanced

/-- When no look before a step finds anything, the watched decoding does what the other does. -/
theorem watched_of_unstopped (whole : generator.budget maxTokens = .whole budget)
    (allows : generator.settings.Allows seconds)
    (unstopped : ∀ count decoding middle,
      generator.unbounded.BeginsStep prompt maxTokens budget scene count decoding middle →
        watch.stopAt seconds count = none) :
    ∃ looked, sceneOf Watched.inner looked =
        ((generator.unbounded.generateDetailed prompt maxTokens (pure false)).perform scene).2 ∧
      ((generator.watched watch).generateDetailed prompt maxTokens watch.cancelled).perform
          (Watch.fresh scene) =
        (((generator.unbounded.generateDetailed prompt maxTokens (pure false)).perform scene).1,
          looked) := by
  rw [generateDetailed_eq, generateDetailed_eq, perform_bind, perform_bind,
    perform_start_watched generator watch allows]
  rcases started : (generator.unbounded.start prompt maxTokens).perform scene with
    ⟨fault | first, start⟩
  · exact ⟨_, rfl, rfl⟩
  · obtain ⟨noSteps, sameBudget, noDeadline⟩ := start_unbounded generator started
    have wholeBudget := sameBudget.trans whole
    have fuel : first.budget.steps + 1 = budget.toNat + 1 := by
      rw [wholeBudget, Limit.steps]
    obtain ⟨count, last, between, outcome, after, strides, ended, drained⟩ :=
      generator.unbounded.drain_course (first.budget.steps + 1) first [] start wholeBudget
        noDeadline (by omega) (by omega)
    have quiet : ∀ position < count, watch.stopAt seconds position = none := by
      intro position below
      obtain ⟨decoding, middle, strides', goesOn⟩ := strides.earlier below
      exact unstopped position decoding middle ⟨first, start, started, strides', goesOn⟩
    obtain ⟨pieces, drainedWatched⟩ := drain_strides_watched generator watch
      (strides_of_unbounded generator strides) wholeBudget seconds quiet
      (budget.toNat - count + 1) []
    have enough : (first.until (watch.deadline seconds)).budget.steps + 1 =
        budget.toNat - count + 1 + count := by
      have steps := strides.steps_eq
      have below := strides.steps_le (by omega)
      change first.budget.steps + 1 = _
      omega
    obtain ⟨looked, same, advanced⟩ := perform_advance_watched_ends generator watch
      (strides.kept.2.1.trans wholeBudget) (strides.kept.2.2.1.trans noDeadline)
      (fun goesOn => unstopped count last between ⟨first, start, started, strides, goesOn⟩) ended
    dsimp only [Except.map]
    rw [enough, drainedWatched, drained]
    exact ⟨looked, same, perform_drain_ended _ _ _ _ advanced⟩

/-! ## Counting the runs -/

theorem stride_mirrors (generator : Generator σ) (decoding : Decoding) :
    Mirrors Recorded.inner (generator.recorded.stride decoding) (generator.stride decoding) :=
  .bind (nextToken_mirrors generator _) fun _ => .ite _ (finish_mirrors _ _) <|
    .bind (.recorded _ _) fun _ => .pure _

/-- A recorded generator makes the strides of the plain one. -/
theorem strides_recorded {first last : Decoding} {start after : Scene σ}
    (strides : generator.Strides budget first start count last after)
    (begun : Scene (Recorded GenerationRequest σ)) (same : sceneOf Recorded.inner begun = start) :
    ∃ reached, sceneOf Recorded.inner reached = after ∧
      generator.recorded.Strides budget first begun count last reached := by
  induction strides with
  | none => exact ⟨begun, same, .none⟩
  | more _ goesOn piece ih =>
      obtain ⟨reached, rfl, strides'⟩ := ih
      rw [stride_mirrors generator _ reached] at piece
      obtain ⟨outcome, rfl⟩ := Prod.mk.inj piece
      exact ⟨_, rfl, .more strides' goesOn (Prod.ext outcome rfl)⟩

/-- A decoding has run the graph once for every step before the one it begins. -/
theorem BeginsStep.recorded
    (begins : generator.unbounded.BeginsStep prompt maxTokens budget scene count decoding middle) :
    ∃ reached, sceneOf Recorded.inner reached = middle ∧
      generator.recorded.unbounded.BeginsStep prompt maxTokens budget
        ⟨⟨scene.world, []⟩, scene.journal⟩ count decoding reached ∧
      (graphRuns reached.world.requests).length = count := by
  have steps := begins.steps_eq
  obtain ⟨first, start, started, strides, goesOn⟩ := begins
  have mirrored := start_mirrors generator.unbounded prompt maxTokens
    ⟨⟨scene.world, []⟩, scene.journal⟩
  rcases startedRecorded : (generator.unbounded.recorded.start prompt maxTokens).perform
    ⟨⟨scene.world, []⟩, scene.journal⟩ with ⟨outcome, begun⟩
  rw [startedRecorded] at mirrored
  obtain ⟨rfl, rfl⟩ := Prod.mk.inj (started.symm.trans mirrored)
  obtain ⟨_, _, _, tracked⟩ :=
    Tracked.start budget generator.unbounded rfl startedRecorded
  obtain ⟨reached, same, strides'⟩ := strides_recorded strides begun rfl
  exact ⟨reached, same, ⟨first, begun, startedRecorded, strides', goesOn⟩,
    (tracked.strides strides').length_runs.trans steps⟩

end Whole

/-- **An event and a deadline cut a decoding and do nothing else.**  When a look before a step of
the decoding without them finds something, the watched decoding stops at the first such look: it has
run the graph once for every step before, and fails with what the other has written so far.
Otherwise it has the same outcome and leaves the same world. -/
theorem generateDetailed_watched (prompt : Text.CodePoints) (maxTokens : Value) {budget : Int}
    (whole : generator.budget maxTokens = .whole budget) {seconds : Option Double}
    (allows : generator.settings.Allows seconds) (scene : Scene σ) :
    (∀ count decoding middle stop,
      generator.CutAt watch seconds prompt maxTokens budget scene count decoding middle stop →
      decoding.steps = count ∧
      (∃ looked, sceneOf Watched.inner looked = middle ∧
        ((generator.watched watch).generateDetailed prompt maxTokens watch.cancelled).perform
            (Watch.fresh scene) =
          (.error (stop.fault generator.settings decoding), looked)) ∧
      ∃ looked, sceneOf Recorded.inner (sceneOf Watched.inner looked) = middle ∧
        ((generator.recorded.watched watch).generateDetailed prompt maxTokens
            watch.cancelled).perform (Watch.fresh ⟨⟨scene.world, []⟩, scene.journal⟩) =
          (.error (stop.fault generator.settings decoding), looked) ∧
        (graphRuns looked.world.inner.requests).length = count) ∧
    ((∀ count decoding middle stop,
      ¬ generator.CutAt watch seconds prompt maxTokens budget scene count decoding middle stop) →
      ∃ looked, sceneOf Watched.inner looked =
          ((generator.unbounded.generateDetailed prompt maxTokens (pure false)).perform scene).2 ∧
        ((generator.watched watch).generateDetailed prompt maxTokens watch.cancelled).perform
            (Watch.fresh scene) =
          (((generator.unbounded.generateDetailed prompt maxTokens (pure false)).perform scene).1,
            looked)) := by
  constructor
  · intro count decoding middle stop cut
    refine ⟨cut.begins.steps_eq, watched_of_cutAt whole allows cut, ?_⟩
    obtain ⟨reached, rfl, begins, runs⟩ := cut.begins.recorded
    have cutRecorded : generator.recorded.CutAt watch seconds prompt maxTokens budget
        ⟨⟨scene.world, []⟩, scene.journal⟩ count decoding reached stop :=
      ⟨begins, cut.unstopped, cut.found⟩
    have wholeRecorded : generator.recorded.budget maxTokens = .whole budget := whole
    have allowsRecorded : generator.recorded.settings.Allows seconds := allows
    obtain ⟨looked, rfl, stopped⟩ := watched_of_cutAt wholeRecorded allowsRecorded cutRecorded
    exact ⟨looked, rfl, stopped, runs⟩
  · intro uncut
    exact watched_of_unstopped whole allows fun _ _ _ begins => stopAt_of_not_cutAt uncut begins

/-- The small generator with a bound of five seconds. -/
def hurried : Generator Nat :=
  { brief with settings := { brief.settings with maxSeconds := .integer 5 } }

end Generator

/-- A watch whose event is never set and whose clock shows ten seconds from the third reading on. -/
def Watch.slow : Watch where
  event _ := false
  clock reading := if reading < 2 then .zero .double else .ofInt .double 10

/-- A decoding that is stopped before its second step. -/
theorem Generator.hurried_watched :
    ∃ looked, Action.sceneOf Watched.inner looked = ⟨1, ⟨40, []⟩⟩ ∧
      ((hurried.watched .slow).generateDetailed (.ofString "p") (.integer 3)
          Watch.slow.cancelled).perform (Watch.fresh ⟨0, ⟨40, []⟩⟩) =
        (.error (.timedOut (.exceeded hurried.settings.maxSeconds.display 1) "a" 1), looked) := by
  have whole : hurried.budget (.integer 3) = .whole 3 := rfl
  have allows : hurried.settings.Allows (some (.ofInt .double 5)) := rfl
  let first : Decoding := ⟨[7], [], "", 0, .whole 3, none, 0⟩
  let second : Decoding := ⟨[7], [1], "a", 1, .whole 3, none, 0⟩
  have started : (hurried.unbounded.start (.ofString "p") (.integer 3)).perform ⟨0, ⟨40, []⟩⟩ =
      (.ok first, ⟨0, ⟨40, []⟩⟩) := rfl
  have strode : (hurried.unbounded.stride first).perform ⟨0, ⟨40, []⟩⟩ =
      (.ok (.piece "a" second), ⟨1, ⟨40, []⟩⟩) := rfl
  have begins : hurried.unbounded.BeginsStep (.ofString "p") (.integer 3) 3 ⟨0, ⟨40, []⟩⟩ 1 second
      ⟨1, ⟨40, []⟩⟩ :=
    ⟨first, ⟨0, ⟨40, []⟩⟩, started, .more .none ⟨rfl, by decide⟩ strode, rfl, by decide⟩
  have unstopped : ∀ earlier < 1, Watch.slow.stopAt (some (.ofInt .double 5)) earlier = none := by
    intro earlier below
    obtain rfl : earlier = 0 := Nat.lt_one_iff.mp below
    decide +kernel
  have found : Watch.slow.stopAt (some (.ofInt .double 5)) 1 = some .timedOut := by
    decide +kernel
  obtain ⟨_, stopped, _⟩ := (hurried.generateDetailed_watched .slow (.ofString "p") (.integer 3)
    whole allows ⟨0, ⟨40, []⟩⟩).1 1 second ⟨1, ⟨40, []⟩⟩ .timedOut ⟨begins, unstopped, found⟩
  exact stopped

end RecallChat
