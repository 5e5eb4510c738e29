import RecallChat.Proofs.Decoding.Interruption
import RecallChat.Proofs.Decoding.Streaming

/-!
# Budgets of a decoding

A budget bounds the number of steps of a decoding and has no other effect.  A stride does not look
at it (`stride_limited`), so a decoding with a larger budget makes the strides of one with a smaller
budget first (`Strides.limited`).  Where the smaller one ends before its budget is used up, both end
alike; where its budget is used up, the larger one has asked its components for the same so far, and
goes on from there to a fault or to a result that begins with the smaller one's.  The main theorem
is `budget_truncates`.
-/

set_option autoImplicit false

namespace RecallChat

/-- The decoding with another budget. -/
def Decoding.limited (decoding : Decoding) (budget : Limit) : Decoding :=
  { decoding with budget := budget }

/-- The progress with another budget for the rest. -/
def Progress.limited (budget : Limit) : Progress → Progress
  | piece text next => .piece text (next.limited budget)
  | done result => .done result

theorem Progress.map_limited_map_done (budget : Limit) (outcome : Except Fault Generated) :
    (outcome.map Progress.done).map (Progress.limited budget) = outcome.map Progress.done := by
  cases outcome <;> rfl

namespace Generator

variable {σ : Type}

/-! ## The budget makes no difference to a stride -/

section Limited

variable (generator : Generator σ)

theorem start_limited (prompt : Text.CodePoints) (maxTokens other : Value) :
    generator.start prompt other =
      (fun decoding => decoding.limited (generator.budget other)) <$>
        generator.start prompt maxTokens := by
  unfold start
  simp only [map_bind]
  refine congrArg (_ >>= ·) (funext fun deadline => congrArg (_ >>= ·) (funext fun tokens => ?_))
  by_cases empty : tokens.isEmpty = true
  · simp only [if_pos empty]
    rfl
  · simp only [if_neg empty, map_bind, map_pure]
    rfl

theorem stride_limited (budget : Limit) (decoding : Decoding) :
    generator.stride (decoding.limited budget) =
      Progress.limited budget <$> generator.stride decoding := by
  unfold stride
  rw [map_bind]
  refine congrArg (_ >>= ·) (funext fun id => ?_)
  by_cases last : id = decoding.endId
  · rw [if_pos last, if_pos (show id = (decoding.limited budget).endId from last)]
    rfl
  · rw [if_neg last, if_neg (show ¬ id = (decoding.limited budget).endId from last), map_bind]
    rfl

theorem perform_stride_limited (budget : Limit) (decoding : Decoding) (scene : Scene σ) :
    (generator.stride (decoding.limited budget)).perform scene =
      (((generator.stride decoding).perform scene).1.map (Progress.limited budget),
        ((generator.stride decoding).perform scene).2) := by
  rw [stride_limited, Action.perform_map]

/-- Where a decoding ends before its budget is used up, it ends alike with a larger one. -/
theorem perform_advance_limited {small large : Int} (le : small ≤ large) {decoding : Decoding}
    (whole : decoding.budget = .whole small) (free : decoding.deadline = none)
    (unspent : generator.atNewline decoding = true ∨ (decoding.steps : Int) < small)
    {scene after : Scene σ} {outcome : Except Fault Generated}
    (ended : (generator.advance (pure false) decoding).perform scene =
      (outcome.map Progress.done, after)) :
    (generator.advance (pure false) (decoding.limited (.whole large))).perform scene =
      (outcome.map Progress.done, after) := by
  cases newline : generator.atNewline decoding with
  | true =>
      have newline' : generator.atNewline (decoding.limited (.whole large)) = true := newline
      rw [perform_advance_of_newline _ _ newline] at ended
      rw [perform_advance_of_newline _ _ newline']
      exact ended
  | false =>
      have below : (decoding.steps : Int) < small :=
        unspent.resolve_left (by rw [newline]; exact Bool.false_ne_true)
      have goesOn : generator.GoesOn large (decoding.limited (.whole large)) :=
        ⟨newline, Int.lt_of_lt_of_le below le⟩
      have free' : (decoding.limited (.whole large)).deadline = none := free
      rw [perform_advance_free _ whole free ⟨newline, below⟩] at ended
      rw [perform_advance_free _ rfl free' goesOn, perform_stride_limited, ended]
      exact Prod.ext (Progress.map_limited_map_done _ outcome) rfl

end Limited

/-! ## Strides under two budgets -/

namespace Strides

variable {generator : Generator σ} {budget small large : Int} {first middle last : Decoding}
  {start between after : Scene σ} {count more : Nat}

/-- A decoding with a larger budget makes the same strides. -/
theorem limited (strides : generator.Strides small first start count last after)
    (le : small ≤ large) (budget : Limit) :
    generator.Strides large (first.limited budget) start count (last.limited budget) after := by
  induction strides with
  | none => exact .none
  | @more _ decoding next text scene after _ goesOn piece ih =>
      have piece' : (generator.stride (decoding.limited budget)).perform scene =
          (.ok (.piece text (next.limited budget)), after) := by
        rw [perform_stride_limited, piece]
        rfl
      exact .more ih ⟨goesOn.1, Int.lt_of_lt_of_le goesOn.2 le⟩ piece'

theorem trans (strides : generator.Strides budget first start count middle between)
    (further : generator.Strides budget middle between more last after) :
    generator.Strides budget first start (count + more) last after := by
  induction further with
  | none => exact strides
  | more _ goesOn piece ih => exact .more ih goesOn piece

/-- Strides add to the tokens and to the text and take nothing away. -/
theorem extends_produced (strides : generator.Strides budget first start count last after) :
    first.produced <+: last.produced ∧ ∃ rest, last.text = first.text ++ rest := by
  induction strides with
  | none => exact ⟨List.prefix_rfl, "", String.append_empty.symm⟩
  | @more _ _ _ text _ _ _ _ piece ih =>
      obtain ⟨id, _, _, _, _, rfl⟩ := stride_piece piece
      obtain ⟨produced, rest, same⟩ := ih
      refine ⟨produced.trans (List.prefix_append _ [id]), rest ++ text, ?_⟩
      rw [← String.append_assoc, ← same]
      rfl

/-- Draining a decoding comes to where its strides lead. -/
theorem drains (strides : generator.Strides budget first start count last after)
    (whole : first.budget = .whole budget) (free : first.deadline = .none) (fuel : Nat)
    (pieces : List String) :
    ∃ pieces', (Prod.snd <$> generator.drain (pure false) (fuel + count) first pieces).perform
        start =
      (Prod.snd <$> generator.drain (pure false) fuel last pieces').perform after := by
  induction strides generalizing fuel with
  | none => exact ⟨pieces, rfl⟩
  | @more count decoding next text scene after strides goesOn piece ih =>
      obtain ⟨pieces', drained⟩ := ih (fuel + 1)
      obtain ⟨-, sameBudget, sameDeadline, -⟩ := strides.kept
      have advanced := perform_advance_free generator (sameBudget.trans whole)
        (sameDeadline.trans free) goesOn scene
      rw [piece] at advanced
      refine ⟨pieces' ++ [text], ?_⟩
      rw [Nat.add_right_comm] at drained
      rw [← Nat.add_assoc, drained]
      exact perform_drain_piece _ _ _ _ advanced

end Strides

/-! ## Whole decodings -/

section Whole

variable {generator : Generator σ} {prompt : Text.CodePoints} {maxTokens other : Value}
  {budget small large : Int} {first last : Decoding} {scene start between after : Scene σ}
  {count : Nat}

/-- A decoding that starts has made no steps, and has the budget of its call. -/
theorem start_free (free : generator.settings.maxSeconds = .null)
    (started : (generator.start prompt maxTokens).perform scene = (.ok first, start)) :
    first.steps = 0 ∧ first.budget = generator.budget maxTokens ∧ first.deadline = none := by
  have unbounded : generator.unbounded.start prompt maxTokens =
      generator.start prompt maxTokens := by
    rw [start_eq, start_eq, deadline_of_null generator free,
      deadline_of_null generator.unbounded rfl]
    rfl
  exact start_unbounded generator ((congrArg (Action.perform · scene) unbounded).trans started)

/-- A whole decoding that is not watched: its strides lead to where advancing ends it. -/
theorem generateDetailed_course (whole : generator.budget maxTokens = .whole budget)
    (free : generator.settings.maxSeconds = .null)
    (started : (generator.start prompt maxTokens).perform scene = (.ok first, start)) :
    ∃ count last between outcome after,
      generator.Strides budget first start count last between ∧
      (generator.advance (pure false) last).perform between =
        (Except.map Progress.done outcome, after) ∧
      (generator.generateDetailed prompt maxTokens (pure false)).perform scene =
        (outcome, after) := by
  obtain ⟨noSteps, sameBudget, noDeadline⟩ := start_free free started
  have wholeBudget := sameBudget.trans whole
  have fuel : first.budget.steps + 1 = budget.toNat + 1 := by
    rw [wholeBudget, Limit.steps]
  obtain ⟨count, last, between, outcome, after, strides, ended, drained⟩ :=
    generator.drain_course (first.budget.steps + 1) first [] start wholeBudget noDeadline
      (by omega) (by omega)
  refine ⟨count, last, between, outcome, after, strides, ended, ?_⟩
  rw [generateDetailed_eq, Action.perform_bind_of_ok started]
  exact drained

/-- Conversely, the outcome of a whole decoding is that of advancing where its strides lead. -/
theorem generateDetailed_of_strides (whole : generator.budget maxTokens = .whole budget)
    (free : generator.settings.maxSeconds = .null)
    (started : (generator.start prompt maxTokens).perform scene = (.ok first, start))
    (strides : generator.Strides budget first start count last between)
    {outcome : Except Fault Generated}
    (ended : (generator.advance (pure false) last).perform between =
      (outcome.map Progress.done, after)) :
    (generator.generateDetailed prompt maxTokens (pure false)).perform scene =
      (outcome, after) := by
  obtain ⟨noSteps, sameBudget, noDeadline⟩ := start_free free started
  have wholeBudget := sameBudget.trans whole
  have enough : first.budget.steps + 1 = budget.toNat - count + 1 + count := by
    have steps := strides.steps_eq
    have below := strides.steps_le (by omega)
    rw [wholeBudget, Limit.steps]
    omega
  obtain ⟨pieces, drained⟩ := strides.drains wholeBudget noDeadline (budget.toNat - count + 1) []
  rw [generateDetailed_eq, Action.perform_bind_of_ok started, enough, drained]
  exact perform_drain_ended _ _ _ _ ended

/-- That a decoding did not end because its budget was used up. -/
def Unspent : Except Fault Generated → Prop
  | .ok result => result.stopReason ≠ .maxTokens
  | .error _ => True

/-- Where a smaller budget is used up, with the last stride leading to `last`, a decoding with a
larger one goes on from there. -/
theorem generateDetailed_continued (whole : generator.budget other = .whole large)
    (free : generator.settings.maxSeconds = .null) (le : small ≤ large)
    (started : (generator.start prompt maxTokens).perform scene = (.ok first, start))
    (strides : generator.Strides small first start count last between) :
    ∃ more final reached outcome after,
      generator.Strides large (last.limited (.whole large)) between more final reached ∧
      final.budget = .whole large ∧ final.deadline = none ∧
      (generator.start prompt other).perform scene =
        (.ok (first.limited (.whole large)), start) ∧
      (generator.advance (pure false) final).perform reached =
        (Except.map Progress.done outcome, after) ∧
      (generator.generateDetailed prompt other (pure false)).perform scene = (outcome, after) := by
  have startedLarge : (generator.start prompt other).perform scene =
      (.ok (first.limited (.whole large)), start) := by
    rw [start_limited generator prompt maxTokens other, Action.perform_map, started, whole]
    rfl
  obtain ⟨noSteps, _, noDeadline⟩ := start_free free started
  have lastFree : (last.limited (.whole large)).deadline = none :=
    strides.kept.2.2.1.trans noDeadline
  have within : (last.limited (.whole large)).steps ≤ large.toNat :=
    Nat.le_trans (strides.steps_le (by omega)) (by omega)
  obtain ⟨more, final, reached, outcome, after, further, ended, _⟩ :=
    generator.drain_course (large.toNat + 1) (last.limited (.whole large)) [] between rfl lastFree
      within (by omega)
  obtain ⟨-, sameBudget, sameDeadline, -⟩ := further.kept
  exact ⟨more, final, reached, outcome, after, further, sameBudget, sameDeadline.trans lastFree,
    startedLarge, ended, generateDetailed_of_strides whole free startedLarge
      ((strides.limited le (.whole large)).trans further) ended⟩

/-- Where a smaller budget is not used up, a larger one makes no difference. -/
theorem generateDetailed_of_unspent (whole : generator.budget maxTokens = .whole small)
    (wholeOther : generator.budget other = .whole large) (le : small ≤ large)
    (free : generator.settings.maxSeconds = .null)
    (unspent : Unspent ((generator.generateDetailed prompt maxTokens (pure false)).perform scene).1) :
    (generator.generateDetailed prompt other (pure false)).perform scene =
      (generator.generateDetailed prompt maxTokens (pure false)).perform scene := by
  have startedLarge := congrArg (Action.perform · scene)
    (start_limited generator prompt maxTokens other)
  rw [Action.perform_map] at startedLarge
  rcases started : (generator.start prompt maxTokens).perform scene with ⟨fault | first, start⟩
  · rw [started] at startedLarge
    rw [generateDetailed_eq, generateDetailed_eq, Action.perform_bind_of_error started,
      Action.perform_bind_of_error startedLarge]
  · rw [started, wholeOther] at startedLarge
    obtain ⟨count, last, between, outcome, after, strides, ended, performed⟩ :=
      generateDetailed_course whole free started
    obtain ⟨-, sameBudget, noDeadline⟩ := start_free free started
    obtain ⟨-, keptBudget, keptDeadline, -⟩ := strides.kept
    have lastWhole := (keptBudget.trans sameBudget).trans whole
    rw [performed] at unspent ⊢
    refine generateDetailed_of_strides wholeOther free startedLarge
      (strides.limited le (.whole large)) ?_
    by_cases goesOn : generator.atNewline last = true ∨ (last.steps : Int) < small
    · exact perform_advance_limited generator le lastWhole (keptDeadline.trans noDeadline) goesOn
        ended
    · -- the budget would be used up here
      rw [not_or, Int.not_lt, Bool.not_eq_true] at goesOn
      rw [perform_advance_of_spent _ _ lastWhole goesOn.1 goesOn.2] at ended
      cases outcome with
      | error fault => cases ended
      | ok result =>
          cases ended
          exact absurd rfl unspent

/-- A budget that is used up was used up by as many steps, and what the decoding has is its
result. -/
theorem spent_course (whole : generator.budget maxTokens = .whole budget)
    (free : generator.settings.maxSeconds = .null) {result : Generated}
    (returned : (generator.generateDetailed prompt maxTokens (pure false)).perform scene =
      (.ok result, after))
    (spent : result.stopReason = .maxTokens) :
    ∃ first start count last between,
      (generator.start prompt maxTokens).perform scene = (.ok first, start) ∧
      generator.Strides budget first start count last between ∧
      (last.steps : Int) = max budget 0 ∧ result = last.result .maxTokens ∧
      after.world = between.world := by
  rcases started : (generator.start prompt maxTokens).perform scene with ⟨fault | first, start⟩
  · rw [generateDetailed_eq, Action.perform_bind_of_error started] at returned
    cases returned
  · obtain ⟨count, last, between, outcome, ending, strides, ended, performed⟩ :=
      generateDetailed_course whole free started
    obtain ⟨noSteps, sameBudget, noDeadline⟩ := start_free free started
    obtain ⟨-, keptBudget, keptDeadline, -⟩ := strides.kept
    obtain ⟨rfl, rfl⟩ := Prod.mk.inj (performed.symm.trans returned)
    have wholeBudget := (keptBudget.trans sameBudget).trans whole
    refine ⟨first, start, count, last, between, rfl, strides, ?_⟩
    cases newline : generator.atNewline last with
    | true =>
        rw [perform_advance_of_newline _ _ newline] at ended
        cases ended
        cases spent
    | false =>
        by_cases below : (last.steps : Int) < budget
        · rw [perform_advance_free _ wholeBudget (keptDeadline.trans noDeadline)
            ⟨newline, below⟩] at ended
          obtain ⟨_, _, rfl, _⟩ := stride_done ended
          cases spent
        · have most := strides.steps_le (by omega)
          rw [perform_advance_of_spent _ _ wholeBudget newline (Int.not_lt.mp below)] at ended
          cases ended
          exact ⟨by omega, rfl, rfl⟩

end Whole

end Generator

/-! ## Requests only grow -/

namespace Action

variable {ρ σ α β : Type}

/-- That an action adds to the requests, if it changes them. -/
def Grows (action : Action (Recorded ρ σ) α) : Prop :=
  ∀ scene, scene.world.requests <+: (action.perform scene).2.world.requests

namespace Grows

theorem pure (value : α) : Grows (Pure.pure value : Action (Recorded ρ σ) α) :=
  fun _ => List.prefix_rfl

theorem ofExcept (outcome : Except Fault α) :
    Grows (Action.ofExcept outcome : Action (Recorded ρ σ) α) := by
  cases outcome with
  | error fault => exact fun _ => List.prefix_rfl
  | ok value => exact .pure value

theorem recorded (note : Except Fault α → ρ) (action : Action σ α) :
    Grows (action.recorded note) :=
  fun _ => List.prefix_append _ _

theorem bind {action : Action (Recorded ρ σ) α} {next : α → Action (Recorded ρ σ) β}
    (first : Grows action) (rest : ∀ value, Grows (next value)) : Grows (action >>= next) := by
  intro scene
  rw [perform_bind]
  have grown := first scene
  rcases performed : action.perform scene with ⟨_ | value, after⟩
  · rw [performed] at grown
    exact grown
  · rw [performed] at grown
    exact grown.trans (rest value after)

end Grows

end Action

namespace Generator

open RecallChat.Action

variable {σ : Type} {generator : Generator σ} {budget : Int} {first last : Decoding} {count : Nat}
  {start after : Scene (Recorded GenerationRequest σ)}

theorem stride_grows (generator : Generator σ) (decoding : Decoding) :
    Grows (generator.recorded.stride decoding) := by
  have next : Grows (generator.recorded.nextToken decoding.tokens) :=
    (Grows.ofExcept _).bind fun _ => (Grows.recorded _ _).bind fun _ =>
      (Grows.ofExcept _).bind fun _ => .pure _
  refine next.bind fun id => ?_
  by_cases ends : id = decoding.endId
  · rw [if_pos ends]
    exact fun _ => List.prefix_rfl -- the end is logged, and nothing is asked
  · rw [if_neg ends]
    exact (Grows.recorded _ _).bind fun _ => .pure _

/-- A decoding that is not watched asks for nothing but in its strides. -/
theorem advance_grows (whole : last.budget = .whole budget) (free : last.deadline = none) :
    Grows (generator.recorded.advance (pure false) last) := by
  intro scene
  by_cases goesOn : generator.recorded.GoesOn budget last
  · rw [perform_advance_free _ whole free goesOn]
    exact stride_grows generator last scene
  · obtain ⟨reason, stopped⟩ := advance_of_not_goesOn _ (pure false) whole goesOn scene
    rw [stopped]
    exact List.prefix_rfl

theorem Strides.grows (strides : generator.recorded.Strides budget first start count last after) :
    start.world.requests <+: after.world.requests := by
  induction strides with
  | none => exact List.prefix_rfl
  | @more _ decoding _ _ scene _ _ _ piece ih =>
      have grown := stride_grows generator decoding scene
      rw [piece] at grown
      exact ih.trans grown

/-- The strides of a recorded generator are those of the plain one. -/
theorem Strides.plain (strides : generator.recorded.Strides budget first start count last after) :
    generator.Strides budget first (sceneOf Recorded.inner start) count last
      (sceneOf Recorded.inner after) := by
  induction strides with
  | none => exact .none
  | @more _ decoding next text scene after _ goesOn piece ih =>
      have piece' : (generator.stride decoding).perform (sceneOf Recorded.inner scene) =
          (.ok (.piece text next), sceneOf Recorded.inner after) := by
        rw [stride_mirrors generator decoding scene, piece]
      exact .more ih goesOn piece'

/-! ## Two budgets -/

/-- What a decoding that is not watched asks of its components. -/
def requestsOf (generator : Generator σ) (prompt : Text.CodePoints) (maxTokens : Value)
    (scene : Scene σ) : List GenerationRequest :=
  ((generator.recorded.generateDetailed prompt maxTokens (pure false)).perform
    ⟨⟨scene.world, []⟩, scene.journal⟩).2.world.requests

/-- Where a decoding comes to that goes on when another one with a smaller budget has ended with a
result because its budget was used up. -/
inductive Continued (generator : Generator σ) (prompt : Text.CodePoints) (maxTokens : Value)
    (small large : Int) (scene : Scene σ) (result : Generated) :
    Except Fault Generated × Scene σ → Prop
  /-- A fault in a step that the smaller budget does not allow, where steps count from zero. -/
  | failed {fault : Fault} {after middle : Scene σ} {count : Nat} {decoding : Decoding}
      (beyond : max small 0 ≤ count)
      (begins : generator.BeginsStep prompt maxTokens large scene count decoding middle)
      (fails : (generator.stride decoding).perform middle = (.error fault, after)) :
      Continued generator prompt maxTokens small large scene result (.error fault, after)
  /-- A result that begins with the other one. -/
  | longer {whole : Generated} {after : Scene σ}
      (tokenIds : result.tokenIds <+: whole.tokenIds)
      (text : ∃ rest, whole.text = result.text ++ rest) :
      Continued generator prompt maxTokens small large scene result (.ok whole, after)

/-- A decoding that goes on where a smaller budget is used up comes to a fault in a later step, or to
a result that begins with what the other one has. -/
theorem continued_of_strides {small large : Int} (le : small ≤ large) {prompt : Text.CodePoints}
    {other : Value} {scene : Scene σ} {final : Decoding} {more : Nat}
    {between reached : Scene (Recorded GenerationRequest σ)} {outcome : Except Fault Generated}
    (startedLarge : (generator.recorded.start prompt other).perform
      ⟨⟨scene.world, []⟩, scene.journal⟩ = (.ok (first.limited (.whole large)), start))
    (noSteps : first.steps = 0)
    (strides : generator.recorded.Strides small first start count last between)
    (spent : (last.steps : Int) = max small 0)
    (further : generator.recorded.Strides large (last.limited (.whole large)) between more final
      reached)
    (whole : final.budget = .whole large) (free : final.deadline = none)
    (ended : (generator.recorded.advance (pure false) final).perform reached =
      (outcome.map Progress.done, after)) :
    generator.Continued prompt other small large scene (last.result .maxTokens)
      (outcome, sceneOf Recorded.inner after) := by
  cases outcome with
  | error fault =>
      have goesOn : generator.recorded.GoesOn large final := by
        refine Classical.byContradiction fun stops => ?_
        obtain ⟨reason, stopped⟩ := advance_of_not_goesOn _ (pure false) whole stops reached
        rw [stopped] at ended
        cases ended
      rw [perform_advance_free _ whole free goesOn] at ended
      have startedPlain := start_mirrors generator prompt other
        ⟨⟨scene.world, []⟩, scene.journal⟩
      rw [startedLarge] at startedPlain
      have fails := stride_mirrors generator final reached
      rw [ended] at fails
      have passed := strides.steps_eq
      exact .failed (by omega)
        ⟨_, _, startedPlain, ((strides.limited le (.whole large)).trans further).plain, goesOn⟩
        fails
  | ok longer =>
      have free' : (pure false : Action σ Bool).unrecorded =
          (pure false : Action (Recorded GenerationRequest σ) Bool) :=
        within_pure (fun _ => rfl) false
      rw [← free'] at ended
      obtain ⟨tokenIds, text⟩ := (advance_end whole ended).2 longer rfl
      obtain ⟨produced, rest, written⟩ := further.extends_produced
      exact .longer (tokenIds ▸ produced) ⟨rest, text.trans written⟩

/-- **A budget cuts a decoding short and does nothing else.**  Where the budget of a decoding is not
used up, a larger one gives the same outcome and leaves the same scene, after the same requests.
Where it is used up, there were as many runs of the graph; a decoding with a larger budget makes all
requests of the other first, and then fails in a later step or has a result that begins with the
other's. -/
theorem budget_truncates (generator : Generator σ) (prompt : Text.CodePoints)
    {maxTokens other : Value} {small large : Int} (whole : generator.budget maxTokens = .whole small)
    (wholeOther : generator.budget other = .whole large) (le : small ≤ large)
    (free : generator.settings.maxSeconds = .null) (scene : Scene σ) :
    let short := (generator.generateDetailed prompt maxTokens (pure false)).perform scene
    let long := (generator.generateDetailed prompt other (pure false)).perform scene
    (Unspent short.1 → long = short ∧
      generator.requestsOf prompt other scene = generator.requestsOf prompt maxTokens scene) ∧
    ∀ result, short.1 = .ok result → result.stopReason = .maxTokens →
      generator.requestsOf prompt maxTokens scene <+: generator.requestsOf prompt other scene ∧
      ((graphRuns (generator.requestsOf prompt maxTokens scene)).length : Int) = max small 0 ∧
      generator.Continued prompt other small large scene result long := by
  -- both decodings are seen through the recorded ones, which show what is asked
  have plain (value : Value) :
      (generator.generateDetailed prompt value (pure false)).perform scene = _ :=
    generator.generateDetailed_mirrors prompt value (.pure false)
      ⟨⟨scene.world, []⟩, scene.journal⟩
  have wholeSeen : generator.recorded.budget maxTokens = .whole small := whole
  have wholeOtherSeen : generator.recorded.budget other = .whole large := wholeOther
  dsimp only
  rw [plain maxTokens, plain other]
  constructor
  · intro unspent
    have same := generateDetailed_of_unspent wholeSeen wholeOtherSeen le free unspent
    rw [same]
    exact ⟨rfl, congrArg (fun performed => performed.2.world.requests) same⟩
  · intro result returned spent
    obtain ⟨first, start, count, last, between, started, strides, steps, rfl, sameWorld⟩ :=
      spent_course wholeSeen free (Prod.ext returned rfl) spent
    obtain ⟨more, final, reached, outcome, after, further, wholeFinal, freeFinal, startedLarge,
      ended, performed⟩ := generateDetailed_continued wholeOtherSeen free le started strides
    have freeSeen : generator.recorded.settings.maxSeconds = .null := free
    obtain ⟨noSteps, -, -⟩ := start_free freeSeen started
    obtain ⟨-, -, -, tracked⟩ := Tracked.start small generator free started
    have asked : generator.requestsOf prompt maxTokens scene = between.world.requests :=
      congrArg Recorded.requests sameWorld
    have askedLarge : generator.requestsOf prompt other scene = after.world.requests :=
      congrArg (fun performed => performed.2.world.requests) performed
    have grows : Action.Grows (generator.recorded.advance (pure false) final) :=
      advance_grows wholeFinal freeFinal
    have grown := grows reached
    rw [ended] at grown
    rw [asked, askedLarge, performed]
    refine ⟨further.grows.trans grown, ?_, ?_⟩
    · rw [(tracked.strides strides).length_runs, steps]
    · exact continued_of_strides le startedLarge noSteps strides steps further wholeFinal freeFinal
        ended

/-- A decoding that ends by the end token is the same with a larger budget, and goes on from where a
smaller one cuts it. -/
theorem brief_truncated :
    (brief.generateDetailed (.ofString "p") (.integer 5) (pure false)).perform ⟨0, ⟨40, []⟩⟩ =
        (.ok ⟨"a", [1], .endToken, 2⟩, ⟨2, ⟨40, []⟩⟩) ∧
      (brief.generateDetailed (.ofString "p") (.integer 1) (pure false)).perform ⟨0, ⟨40, []⟩⟩ =
        (.ok ⟨"a", [1], .maxTokens, 1⟩, ⟨1, ⟨40, []⟩⟩) ∧
      brief.requestsOf (.ofString "p") (.integer 1) ⟨0, ⟨40, []⟩⟩ <+:
        brief.requestsOf (.ofString "p") (.integer 3) ⟨0, ⟨40, []⟩⟩ ∧
      ((graphRuns (brief.requestsOf (.ofString "p") (.integer 1) ⟨0, ⟨40, []⟩⟩)).length : Int) =
        max 1 0 ∧
      brief.Continued (.ofString "p") (.integer 3) 1 3 ⟨0, ⟨40, []⟩⟩ ⟨"a", [1], .maxTokens, 1⟩
        (.ok ⟨"a", [1], .endToken, 2⟩, ⟨2, ⟨40, []⟩⟩) := by
  have one : brief.budget (.integer 1) = .whole 1 := rfl
  have three : brief.budget (.integer 3) = .whole 3 := rfl
  have five : brief.budget (.integer 5) = .whole 5 := rfl
  have free : brief.settings.maxSeconds = .null := rfl
  have ends : (brief.generateDetailed (.ofString "p") (.integer 3) (pure false)).perform
      ⟨0, ⟨40, []⟩⟩ = (.ok ⟨"a", [1], .endToken, 2⟩, ⟨2, ⟨40, []⟩⟩) := rfl
  have cut : (brief.generateDetailed (.ofString "p") (.integer 1) (pure false)).perform
      ⟨0, ⟨40, []⟩⟩ = (.ok ⟨"a", [1], .maxTokens, 1⟩, ⟨1, ⟨40, []⟩⟩) := rfl
  obtain ⟨same, -⟩ :=
    budget_truncates brief (.ofString "p") three five (by decide) free ⟨0, ⟨40, []⟩⟩
  obtain ⟨-, continued⟩ :=
    budget_truncates brief (.ofString "p") one three (by decide) free ⟨0, ⟨40, []⟩⟩
  have unspent : Unspent ((brief.generateDetailed (.ofString "p") (.integer 3) (pure false)).perform
      ⟨0, ⟨40, []⟩⟩).1 := by
    rw [ends]
    exact StopReason.noConfusion
  exact ⟨(same unspent).1.trans ends, cut, continued _ (congrArg Prod.fst cut) rfl⟩

end Generator

end RecallChat
