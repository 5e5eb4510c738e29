import RecallChat.Proofs.Decoding.Strides

/-!
# What a stream delivers

A stream that is asked for a piece takes up its decoding, which a stream that has not begun starts
first (`Resumes`), and gives what advancing that decoding leads to (`perform_next_of_resumes`).
`Delivers` relates a stream to where it is after a number of pieces, and `Drains` to how it ends.

A whole decoding advances in the same way, so draining a stream makes the same steps: it delivers
the pieces that the whole decoding collects and ends as that does, in the same scene.  The main
theorem is `decodeAll_drains`.
-/

set_option autoImplicit false

namespace RecallChat.Generator

open RecallChat.Action

variable {σ : Type} {generator : Generator σ} {cancelled : Action σ Bool}

/-! ## The next piece -/

/-- What a stream gives, and where it is then, for what advancing its decoding led to. -/
def yielded : Except Fault Progress → Except Fault (Option String) × Stream
  | .error fault => (.error fault, .over)
  | .ok (.piece text next) => (.ok (some text), .active next)
  | .ok (.done _) => (.ok none, .over)

/-- The decoding that a stream takes up when it is asked for a piece, and the scene then. -/
inductive Resumes (generator : Generator σ) : Stream → Scene σ → Decoding → Scene σ → Prop
  /-- A stream that has not begun starts its decoding. -/
  | fresh {prompt : Text.CodePoints} {maxTokens : Value} {scene after : Scene σ}
      {decoding : Decoding}
      (started : (generator.start prompt maxTokens).perform scene = (.ok decoding, after)) :
      Resumes generator (.fresh prompt maxTokens) scene decoding after
  /-- A stream under way has its decoding. -/
  | active (decoding : Decoding) (scene : Scene σ) :
      Resumes generator (.active decoding) scene decoding scene

/-- A stream gives what advancing its decoding leads to. -/
theorem perform_next_of_resumes (cancelled : Action σ Bool) {stream : Stream}
    {scene middle : Scene σ} {decoding : Decoding}
    (resumes : generator.Resumes stream scene decoding middle) :
    (generator.next cancelled stream).perform scene =
      (.ok (yielded ((generator.advance cancelled decoding).perform middle).1),
        ((generator.advance cancelled decoding).perform middle).2) := by
  cases resumes with
  | active =>
      unfold next deliver
      rw [perform_bind, perform_attempt, perform_bind]
      rcases (generator.advance cancelled decoding).perform scene with
        ⟨fault | ⟨text, next⟩ | result, after⟩ <;> rfl
  | fresh started =>
      unfold next deliver
      rw [perform_bind, perform_attempt, perform_bind_of_ok started, perform_bind]
      rcases (generator.advance cancelled decoding).perform middle with
        ⟨fault | ⟨text, next⟩ | result, after⟩ <;> rfl

/-- A stream whose decoding cannot be started is over. -/
theorem perform_next_of_unstarted {prompt : Text.CodePoints} {maxTokens : Value}
    {scene after : Scene σ} {fault : Fault}
    (failed : (generator.start prompt maxTokens).perform scene = (.error fault, after)) :
    (generator.next cancelled (.fresh prompt maxTokens)).perform scene =
      (.ok (.error fault, .over), after) := by
  unfold next
  rw [perform_bind, perform_attempt, perform_bind_of_error failed]
  rfl

/-- A decoding that starts has made no steps and written nothing. -/
theorem start_eq_ok {prompt : Text.CodePoints} {maxTokens : Value} {scene after : Scene σ}
    {decoding : Decoding}
    (started : (generator.start prompt maxTokens).perform scene = (.ok decoding, after)) :
    decoding.budget = generator.budget maxTokens ∧ decoding.steps = 0 ∧ decoding.produced = [] ∧
      decoding.text = "" := by
  obtain ⟨deadline, _, _, rest⟩ := perform_bind_eq_ok.mp started
  obtain ⟨tokens, _, _, rest⟩ := perform_bind_eq_ok.mp rest
  by_cases empty : tokens.isEmpty = true
  · rw [if_pos empty] at rest
    cases rest
  · rw [if_neg empty] at rest
    obtain ⟨endId, _, _, rest⟩ := perform_bind_eq_ok.mp rest
    cases rest
    exact ⟨rfl, rfl, rfl, rfl⟩

theorem perform_next_over (scene : Scene σ) :
    (generator.next cancelled .over).perform scene = (.ok (.ok none, .over), scene) := rfl

/-- What a stream gives is what advancing its decoding leads to, unless it is over or its decoding
cannot be started. -/
theorem next_cases {stream next : Stream} {scene after : Scene σ}
    {answer : Except Fault (Option String)}
    (asked : (generator.next cancelled stream).perform scene = (.ok (answer, next), after)) :
    (∃ decoding middle progress, generator.Resumes stream scene decoding middle ∧
      (generator.advance cancelled decoding).perform middle = (progress, after) ∧
      (answer, next) = yielded progress) ∨
    (∃ prompt maxTokens fault, stream = .fresh prompt maxTokens ∧
      (generator.start prompt maxTokens).perform scene = (.error fault, after) ∧
      answer = .error fault) ∨
    stream = .over ∧ answer = .ok none ∧ after = scene := by
  rcases stream with ⟨prompt, maxTokens⟩ | decoding | _
  · rcases started : (generator.start prompt maxTokens).perform scene with
      ⟨fault | decoding, middle⟩
    · rw [perform_next_of_unstarted started] at asked
      cases asked
      exact .inr (.inl ⟨prompt, maxTokens, fault, rfl, started, rfl⟩)
    · have resumes : generator.Resumes (.fresh prompt maxTokens) scene decoding middle :=
        .fresh started
      rw [perform_next_of_resumes cancelled resumes] at asked
      obtain ⟨same, rfl⟩ := Prod.mk.inj asked
      exact .inl ⟨decoding, middle, _, resumes, rfl, (Except.ok.inj same).symm⟩
  · have resumes : generator.Resumes (.active decoding) scene decoding scene := .active _ _
    rw [perform_next_of_resumes cancelled resumes] at asked
    obtain ⟨same, rfl⟩ := Prod.mk.inj asked
    exact .inl ⟨decoding, scene, _, resumes, rfl, (Except.ok.inj same).symm⟩
  · rw [perform_next_over] at asked
    cases asked
    exact .inr (.inr ⟨rfl, rfl, rfl⟩)

/-- A stream that gives a piece has advanced its decoding, with which it goes on. -/
theorem next_piece {stream next : Stream} {scene after : Scene σ} {text : String}
    (asked : (generator.next cancelled stream).perform scene =
      (.ok (.ok (some text), next), after)) :
    ∃ decoding middle further, generator.Resumes stream scene decoding middle ∧
      (generator.advance cancelled decoding).perform middle = (.ok (.piece text further), after) ∧
      next = .active further := by
  rcases next_cases asked with
    ⟨decoding, middle, progress, resumes, advanced, same⟩ | ⟨_, _, _, _, _, failed⟩ | ⟨_, none, _⟩
  · rcases progress with fault | ⟨piece, further⟩ | result
    · cases same
    · cases same
      exact ⟨decoding, middle, further, resumes, advanced, rfl⟩
    · cases same
  · cases failed
  · cases none

/-! ## Many pieces -/

/-- `Delivers generator cancelled first start pieces last after`: a stream that is `first` in the
scene `start` gives the pieces, one after the other, and is `last` in the scene `after`. -/
inductive Delivers (generator : Generator σ) (cancelled : Action σ Bool) (first : Stream)
    (start : Scene σ) : List String → Stream → Scene σ → Prop
  | none : Delivers generator cancelled first start [] first start
  | more {pieces : List String} {text : String} {stream next : Stream} {scene after : Scene σ}
      (delivers : Delivers generator cancelled first start pieces stream scene)
      (asked : (generator.next cancelled stream).perform scene =
        (.ok (.ok (some text), next), after)) :
      Delivers generator cancelled first start (pieces ++ [text]) next after

/-- That a stream gives the pieces and no more: asked once again it has none left, or fails, as the
outcome says. -/
def Drains {α : Type} (generator : Generator σ) (cancelled : Action σ Bool) (first : Stream)
    (start : Scene σ) (pieces : List String) (outcome : Except Fault α) (after : Scene σ) : Prop :=
  ∃ last between, generator.Delivers cancelled first start pieces last between ∧
    (generator.next cancelled last).perform between =
      (.ok (outcome.map fun _ => none, .over), after)

/-! ## Whole decodings -/

/-- A step that gives a piece is a stride that no look has stopped. -/
theorem advance_piece {decoding next : Decoding} {budget : Int} {text : String}
    {scene after : Scene σ} (whole : decoding.budget = .whole budget)
    (advanced : (generator.advance cancelled decoding).perform scene =
      (.ok (.piece text next), after)) :
    generator.GoesOn budget decoding ∧ ∃ looked,
      (generator.checkStop cancelled decoding).perform scene = (.ok (), looked) ∧
      (generator.stride decoding).perform looked = (.ok (.piece text next), after) := by
  by_cases goesOn : generator.GoesOn budget decoding
  · rw [perform_advance_of_goesOn generator cancelled whole goesOn] at advanced
    obtain ⟨_, looked, checked, strode⟩ := perform_bind_eq_ok.mp advanced
    exact ⟨goesOn, looked, checked, strode⟩
  · obtain ⟨reason, stopped⟩ :=
      advance_of_not_goesOn generator cancelled whole goesOn scene
    rw [stopped] at advanced
    cases advanced

/-- Draining a decoding goes on with a stream's pieces until advancing ends it. -/
theorem drain_delivers {first : Stream} {start : Scene σ} {budget : Int} (fuel : Nat)
    {decoding : Decoding} {pieces : List String} {stream : Stream} {between scene : Scene σ}
    (delivers : generator.Delivers cancelled first start pieces stream between)
    (resumes : generator.Resumes stream between decoding scene)
    (whole : decoding.budget = .whole budget) (within : decoding.steps ≤ budget.toNat)
    (enough : budget.toNat < decoding.steps + fuel) :
    ∃ all stream' between' last reached outcome after,
      generator.Delivers cancelled first start all stream' between' ∧
      generator.Resumes stream' between' last reached ∧
      (generator.advance cancelled last).perform reached =
        (Except.map Progress.done outcome, after) ∧
      (generator.drain cancelled fuel decoding pieces).perform scene =
        (outcome.map fun result => (all, result), after) := by
  induction fuel generalizing decoding pieces stream between scene with
  | zero => omega
  | succ fuel ih =>
      rw [drain, perform_bind]
      have asked := perform_next_of_resumes cancelled resumes
      rcases advanced : (generator.advance cancelled decoding).perform scene with
        ⟨fault | ⟨text, next⟩ | result, after⟩
      · exact ⟨pieces, stream, between, decoding, scene, .error fault, after, delivers, resumes,
          advanced, rfl⟩
      · rw [advanced] at asked
        obtain ⟨goesOn, looked, -, strode⟩ := advance_piece whole advanced
        have one := Strides.more .none goesOn strode
        obtain ⟨-, sameBudget, -⟩ := one.kept
        have steps : next.steps = decoding.steps + 1 := one.steps_eq
        have below : (decoding.steps : Int) < budget := goesOn.2
        exact ih (.more delivers asked) (.active next after) (sameBudget.trans whole) (by omega)
          (by omega)
      · exact ⟨pieces, stream, between, decoding, scene, .ok result, after, delivers, resumes,
          advanced, rfl⟩

/-- A stream whose decoding ends by advancing has no more pieces. -/
theorem Delivers.drains {first stream : Stream} {start between reached after : Scene σ}
    {pieces : List String} {last : Decoding} {outcome : Except Fault Generated}
    (delivers : generator.Delivers cancelled first start pieces stream between)
    (resumes : generator.Resumes stream between last reached)
    (ended : (generator.advance cancelled last).perform reached =
      (outcome.map Progress.done, after)) :
    generator.Drains cancelled first start pieces outcome after := by
  refine ⟨stream, between, delivers, ?_⟩
  rw [perform_next_of_resumes cancelled resumes, ended]
  cases outcome with
  | error fault => rfl
  | ok result => rfl

section Whole

variable {prompt : Text.CodePoints} {maxTokens : Value} {budget : Int}
  (whole : generator.budget maxTokens = .whole budget) (start : Scene σ)

include whole

/-- A whole decoding cannot be started, or it ends where a stream has delivered its pieces and
resumes a decoding that ends by advancing. -/
theorem decodeAll_course (cancelled : Action σ Bool) (prompt : Text.CodePoints) :
    (∃ fault after,
      (generator.start prompt maxTokens).perform start = (.error fault, after) ∧
      (generator.decodeAll prompt maxTokens cancelled).perform start = (.error fault, after)) ∨
    ∃ pieces stream between last reached outcome after,
      generator.Delivers cancelled (.fresh prompt maxTokens) start pieces stream between ∧
      generator.Resumes stream between last reached ∧
      (generator.advance cancelled last).perform reached =
        (Except.map Progress.done outcome, after) ∧
      (generator.decodeAll prompt maxTokens cancelled).perform start =
        (outcome.map fun result => (pieces, result), after) := by
  rw [decodeAll, perform_bind]
  rcases started : (generator.start prompt maxTokens).perform start with ⟨fault | decoding, scene⟩
  · exact .inl ⟨fault, scene, rfl, rfl⟩
  · right
    obtain ⟨sameBudget, noSteps, -⟩ := start_eq_ok started
    have wholeBudget := sameBudget.trans whole
    have fuel : decoding.budget.steps + 1 = budget.toNat + 1 := by
      rw [wholeBudget, Limit.steps]
    exact drain_delivers (decoding.budget.steps + 1) .none (.fresh started) wholeBudget (by omega)
      (by omega)

/-- **Draining a stream is a whole decoding.**  The stream delivers the pieces that are collected,
and ends as the decoding does, with its fault or without one, in the same scene. -/
theorem decodeAll_drains (cancelled : Action σ Bool) (prompt : Text.CodePoints) :
    ∃ pieces outcome after,
      (generator.decodeAll prompt maxTokens cancelled).perform start =
        (Except.map (fun result => (pieces, result)) outcome, after) ∧
      generator.Drains cancelled (.fresh prompt maxTokens) start pieces outcome after := by
  rcases decodeAll_course whole start cancelled prompt with
    ⟨fault, after, unstarted, decoded⟩ |
    ⟨pieces, stream, between, last, reached, outcome, after, delivers, resumes, ended, decoded⟩
  · exact ⟨[], .error fault, after, decoded, _, _, .none, perform_next_of_unstarted unstarted⟩
  · exact ⟨pieces, outcome, after, decoded, delivers.drains resumes ended⟩

end Whole

end RecallChat.Generator
