import RecallChat.Proofs.Recording

/-!
# Strides of a decoding

A decoding goes on while it has not just written a newline to stop at and its budget is not used
up.  A stride is what it does then: one run of the graph, and either the end of the decoding or one
more token with its piece of text.  `Strides` relates a decoding to where it is after a number of
strides that each gave a token.

Advancing is finishing where a decoding does not go on, and otherwise the check for a stop followed
by a stride (`perform_advance_of_goesOn`).  Draining a decoding makes strides until advancing ends
it, with a result or a fault (`drain_course`): the number of steps it is allowed is always enough.
-/

set_option autoImplicit false

namespace RecallChat.Generator

variable {σ : Type}

/-! ## One stride -/

/-- Whether a decoding goes on with one more step. -/
def GoesOn (generator : Generator σ) (budget : Int) (decoding : Decoding) : Prop :=
  generator.atNewline decoding = false ∧ (decoding.steps : Int) < budget

/-- One run of the graph, and what its token leads to. -/
def stride (generator : Generator σ) (decoding : Decoding) : Action σ Progress := do
  let id ← generator.nextToken decoding.tokens
  let stepped := { decoding with steps := decoding.steps + 1 }
  if id = decoding.endId then finish stepped .endToken
  else
    let piece ← generator.tokenizer.decode [id]
    return .piece piece (stepped.push id piece)

/-- The scene after a decoding's end was logged. -/
def logged (decoding : Decoding) (reason : StopReason) (scene : Scene σ) : Scene σ :=
  ((finish decoding reason : Action σ Progress).perform scene).2

theorem perform_finish (decoding : Decoding) (reason : StopReason) (scene : Scene σ) :
    (finish decoding reason : Action σ Progress).perform scene =
      (.ok (.done (decoding.result reason)), logged decoding reason scene) := rfl

theorem perform_advance_of_newline (generator : Generator σ) (cancelled : Action σ Bool)
    {decoding : Decoding} (newline : generator.atNewline decoding = true) (scene : Scene σ) :
    (generator.advance cancelled decoding).perform scene =
      (.ok (.done (decoding.result .newline)), logged decoding .newline scene) := by
  rw [advance, if_pos newline]
  exact perform_finish decoding .newline scene

theorem perform_advance_of_spent (generator : Generator σ) (cancelled : Action σ Bool)
    {decoding : Decoding} {budget : Int} (whole : decoding.budget = .whole budget)
    (open' : generator.atNewline decoding = false) (spent : budget ≤ decoding.steps)
    (scene : Scene σ) :
    (generator.advance cancelled decoding).perform scene =
      (.ok (.done (decoding.result .maxTokens)), logged decoding .maxTokens scene) := by
  have refused : decoding.budget.allows decoding.steps = .ok false := by
    simpa [whole, Limit.allows] using spent
  rw [advance, if_neg (by simp [open']), Action.perform_bind, Action.perform_ofExcept, refused]
  exact perform_finish decoding .maxTokens scene

theorem perform_advance_of_goesOn (generator : Generator σ) (cancelled : Action σ Bool)
    {decoding : Decoding} {budget : Int} (whole : decoding.budget = .whole budget)
    (goesOn : generator.GoesOn budget decoding) (scene : Scene σ) :
    (generator.advance cancelled decoding).perform scene =
      (generator.checkStop cancelled decoding >>= fun _ =>
        generator.stride decoding).perform scene := by
  have allowed : decoding.budget.allows decoding.steps = .ok true := by
    simpa [whole, Limit.allows] using goesOn.2
  rw [advance, if_neg (by simp [goesOn.1]), Action.perform_bind, Action.perform_ofExcept, allowed]
  rfl

/-- A decoding that is not cancelled and has no deadline is never stopped. -/
theorem perform_checkStop_free (generator : Generator σ) {decoding : Decoding}
    (free : decoding.deadline = none) (scene : Scene σ) :
    (generator.checkStop (pure false) decoding).perform scene = (.ok (), scene) := by
  simp [checkStop, free]

theorem perform_advance_free (generator : Generator σ) {decoding : Decoding} {budget : Int}
    (whole : decoding.budget = .whole budget) (free : decoding.deadline = none)
    (goesOn : generator.GoesOn budget decoding) (scene : Scene σ) :
    (generator.advance (pure false) decoding).perform scene =
      (generator.stride decoding).perform scene := by
  rw [perform_advance_of_goesOn generator (pure false) whole goesOn, Action.perform_bind,
    perform_checkStop_free generator free]

/-- A stride that gives a piece of text has chosen a token other than the end token. -/
theorem stride_piece {generator : Generator σ} {decoding next : Decoding} {text : String}
    {scene after : Scene σ}
    (piece : (generator.stride decoding).perform scene = (.ok (.piece text next), after)) :
    ∃ id middle, (generator.nextToken decoding.tokens).perform scene = (.ok id, middle) ∧
      id ≠ decoding.endId ∧
      (generator.tokenizer.decode [id]).perform middle = (.ok text, after) ∧
      next = { decoding with steps := decoding.steps + 1 }.push id text := by
  obtain ⟨id, middle, chosen, rest⟩ := Action.perform_bind_eq_ok.mp piece
  by_cases last : id = decoding.endId
  · rw [if_pos last, perform_finish] at rest
    cases rest
  · rw [if_neg last] at rest
    obtain ⟨given, final, decoded, rest⟩ := Action.perform_bind_eq_ok.mp rest
    cases rest
    exact ⟨id, middle, chosen, last, decoded, rfl⟩

/-- A stride that ends the decoding has chosen the end token. -/
theorem stride_done {generator : Generator σ} {decoding : Decoding} {result : Generated}
    {scene after : Scene σ}
    (done : (generator.stride decoding).perform scene = (.ok (.done result), after)) :
    ∃ middle, (generator.nextToken decoding.tokens).perform scene = (.ok decoding.endId, middle) ∧
      result = { decoding with steps := decoding.steps + 1 }.result .endToken ∧
      after.world = middle.world := by
  obtain ⟨id, middle, chosen, rest⟩ := Action.perform_bind_eq_ok.mp done
  by_cases last : id = decoding.endId
  · subst last
    rw [if_pos rfl, perform_finish] at rest
    cases rest
    exact ⟨middle, chosen, rfl, rfl⟩
  · rw [if_neg last] at rest
    obtain ⟨given, final, decoded, rest⟩ := Action.perform_bind_eq_ok.mp rest
    cases rest

/-! ## Many strides -/

/-- `Strides generator budget first start count last after`: from the decoding `first` in the scene
`start`, `count` strides that each give a token lead to `last` in the scene `after`. -/
inductive Strides (generator : Generator σ) (budget : Int) (first : Decoding) (start : Scene σ) :
    Nat → Decoding → Scene σ → Prop where
  | none : Strides generator budget first start 0 first start
  | more {count : Nat} {decoding next : Decoding} {text : String} {scene after : Scene σ}
      (strides : Strides generator budget first start count decoding scene)
      (goesOn : generator.GoesOn budget decoding)
      (piece : (generator.stride decoding).perform scene = (.ok (.piece text next), after)) :
      Strides generator budget first start (count + 1) next after

namespace Strides

variable {generator : Generator σ} {budget : Int} {first last : Decoding} {start after : Scene σ}
  {count : Nat}

/-- Strides change the tokens, the text and the number of steps only. -/
theorem kept (strides : Strides generator budget first start count last after) :
    last.prompt = first.prompt ∧ last.budget = first.budget ∧ last.deadline = first.deadline ∧
      last.endId = first.endId := by
  induction strides with
  | none => exact ⟨rfl, rfl, rfl, rfl⟩
  | more _ _ piece ih =>
      obtain ⟨_, _, _, _, _, rfl⟩ := stride_piece piece
      exact ih

theorem steps_eq (strides : Strides generator budget first start count last after) :
    last.steps = first.steps + count := by
  induction strides with
  | none => rfl
  | more _ _ piece ih =>
      obtain ⟨_, _, _, _, _, rfl⟩ := stride_piece piece
      rw [← Nat.add_assoc, ← ih]
      rfl

/-- Strides end within the budget. -/
theorem steps_le (strides : Strides generator budget first start count last after)
    (within : first.steps ≤ budget.toNat) : last.steps ≤ budget.toNat := by
  induction strides with
  | none => exact within
  | more _ goesOn piece _ =>
      obtain ⟨_, _, _, _, _, rfl⟩ := stride_piece piece
      have below := goesOn.2
      change _ + 1 ≤ budget.toNat
      omega

/-- Every stride starts where the strides before it have led. -/
theorem earlier (strides : Strides generator budget first start count last after) {position : Nat}
    (below : position < count) :
    ∃ decoding scene, Strides generator budget first start position decoding scene ∧
      generator.GoesOn budget decoding := by
  induction strides with
  | none => exact absurd below (Nat.not_lt_zero position)
  | more strides goesOn _ ih =>
      rcases Nat.lt_succ_iff_lt_or_eq.mp below with before | rfl
      · exact ih before
      · exact ⟨_, _, strides, goesOn⟩

/-- A stride in front of other strides. -/
theorem cons {second : Decoding} {text : String} {scene : Scene σ}
    (goesOn : generator.GoesOn budget first)
    (piece : (generator.stride first).perform start = (.ok (.piece text second), scene))
    (strides : Strides generator budget second scene count last after) :
    Strides generator budget first start (count + 1) last after := by
  induction strides with
  | none => exact .more .none goesOn piece
  | more _ goesOn' piece' ih => exact .more ih goesOn' piece'

end Strides

/-! ## The course of a whole decoding -/

/-- Where a decoding does not go on, advancing ends it with a result. -/
theorem advance_of_not_goesOn (generator : Generator σ) (cancelled : Action σ Bool)
    {decoding : Decoding} {budget : Int} (whole : decoding.budget = .whole budget)
    (stops : ¬ generator.GoesOn budget decoding) (scene : Scene σ) :
    ∃ reason, (generator.advance cancelled decoding).perform scene =
      (.ok (.done (decoding.result reason)), logged decoding reason scene) := by
  cases newline : generator.atNewline decoding with
  | true => exact ⟨.newline, perform_advance_of_newline generator cancelled newline scene⟩
  | false =>
      have spent : budget ≤ decoding.steps := Int.not_lt.mp fun below => stops ⟨newline, below⟩
      exact ⟨.maxTokens, perform_advance_of_spent generator cancelled whole newline spent scene⟩

theorem generateDetailed_eq (generator : Generator σ) (prompt : Text.CodePoints) (maxTokens : Value)
    (cancelled : Action σ Bool) :
    generator.generateDetailed prompt maxTokens cancelled =
      generator.start prompt maxTokens >>= fun decoding =>
        Prod.snd <$> generator.drain cancelled (decoding.budget.steps + 1) decoding [] :=
  map_bind _ _ _

/-- What draining does when advancing ends the decoding, with a result or a fault. -/
theorem perform_drain_ended (generator : Generator σ) (cancelled : Action σ Bool) (fuel : Nat)
    {decoding : Decoding} (pieces : List String) {scene after : Scene σ}
    {outcome : Except Fault Generated}
    (ended : (generator.advance cancelled decoding).perform scene =
      (outcome.map Progress.done, after)) :
    (Prod.snd <$> generator.drain cancelled (fuel + 1) decoding pieces).perform scene =
      (outcome, after) := by
  rw [Action.perform_map, drain, Action.perform_bind, ended]
  cases outcome <;> rfl

theorem perform_drain_piece (generator : Generator σ) (cancelled : Action σ Bool) (fuel : Nat)
    {decoding next : Decoding} (pieces : List String) {text : String} {scene after : Scene σ}
    (piece : (generator.advance cancelled decoding).perform scene =
      (.ok (.piece text next), after)) :
    (Prod.snd <$> generator.drain cancelled (fuel + 1) decoding pieces).perform scene =
      (Prod.snd <$> generator.drain cancelled fuel next (pieces ++ [text])).perform after := by
  rw [Action.perform_map, Action.perform_map, drain, Action.perform_bind, piece]

/-- **A decoding makes strides until advancing ends it.**  It is drained by as many steps as its
budget still allows and one more, which notices that the budget is used up. -/
theorem drain_course (generator : Generator σ) {budget : Int} (fuel : Nat) (decoding : Decoding)
    (pieces : List String) (scene : Scene σ) (whole : decoding.budget = .whole budget)
    (free : decoding.deadline = none) (within : decoding.steps ≤ budget.toNat)
    (enough : budget.toNat < decoding.steps + fuel) :
    ∃ count last between outcome after,
      Strides generator budget decoding scene count last between ∧
      (generator.advance (pure false) last).perform between =
        (Except.map Progress.done outcome, after) ∧
      (Prod.snd <$> generator.drain (pure false) fuel decoding pieces).perform scene =
        (outcome, after) := by
  induction fuel generalizing decoding pieces scene with
  | zero => omega
  | succ fuel ih =>
      by_cases goesOn : generator.GoesOn budget decoding
      · have advanced := perform_advance_free generator whole free goesOn scene
        rcases strode : (generator.stride decoding).perform scene with
          ⟨fault | ⟨text, next⟩ | result, after⟩
        · rw [strode] at advanced
          exact ⟨0, decoding, scene, .error fault, after, .none, advanced,
            perform_drain_ended generator _ fuel pieces advanced⟩
        · rw [strode] at advanced
          have one := Strides.more .none goesOn strode
          obtain ⟨-, sameBudget, sameDeadline, -⟩ := one.kept
          have steps : next.steps = decoding.steps + 1 := one.steps_eq
          have below : (decoding.steps : Int) < budget := goesOn.2
          obtain ⟨count, last, between, outcome, final, strides, ended, drained⟩ :=
            ih next (pieces ++ [text]) after (sameBudget.trans whole) (sameDeadline.trans free)
              (by omega) (by omega)
          exact ⟨count + 1, last, between, outcome, final, strides.cons goesOn strode, ended,
            (perform_drain_piece generator _ fuel pieces advanced).trans drained⟩
        · rw [strode] at advanced
          exact ⟨0, decoding, scene, .ok result, after, .none, advanced,
            perform_drain_ended generator _ fuel pieces advanced⟩
      · obtain ⟨reason, advanced⟩ :=
          advance_of_not_goesOn generator (pure false) whole goesOn scene
        exact ⟨0, decoding, scene, .ok (decoding.result reason), _, .none, advanced,
          perform_drain_ended generator _ fuel pieces advanced⟩

end RecallChat.Generator
