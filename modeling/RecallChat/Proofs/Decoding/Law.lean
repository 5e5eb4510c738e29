import RecallChat.Proofs.Decoding.Requests
import RecallChat.Proofs.Decoding.Strides
import RecallChat.Proofs.Outcome

/-!
# The law of decoding

What a decoding that is not watched from outside asks of its components, and how its result follows
from their answers.  `DecodingLaw` says it: every run of the graph is given the prompt and the
tokens so far, every token is the choice of its run and none is the end token, the text is that of
the tokens, and the reason says which of the three ends was met.

Strides keep the law's part about the way so far (`Tracked`), one step at a time
(`Tracked.more`), and each end of a decoding completes it.  The main theorem is
`generateDetailed_law`.
-/

set_option autoImplicit false

namespace RecallChat

/-! ## The law -/

/-- What a graph is given for a sequence of tokens: their ids and a mask of ones, each of shape one
by their number. -/
def submission (tokens : List Int) : NamedTensors :=
  [("input_ids", ⟨[1, tokens.length], .integer true 64 tokens.toArray⟩),
    ("attention_mask",
      ⟨[1, tokens.length], .integer true 64 (Array.replicate tokens.length 1)⟩)]

/-- The token that the answer of a run leads to, for a sequence of that many tokens: the greedy
choice at the last position of the logits. -/
def GraphRun.choice (run : GraphRun) (length : Nat) : Except Fault Int := do
  let logits ← requireOutput (← run.answer) "logits" length
  return greedyToken (lastRow logits length)

/-- Whether the last step of a decoding added a token. -/
def Generated.AddedLast (result : Generated) : Prop :=
  result.tokenIds ≠ [] ∧ result.steps = result.tokenIds.length

/-- How the result of a decoding follows from what its components were asked and answered. -/
structure DecodingLaw (stopOnNewline : Bool) (budget : Int) (text : Text.CodePoints)
    (prompt : List Int) (endId : Int) (requests : List GenerationRequest) (result : Generated) :
    Prop where
  /-- The prompt was encoded and the end token asked for, before anything else. -/
  opened : [.encoding (.ofPoints text) (.ok prompt), .ending (.ok endId)] <+: requests
  prompt_ne_nil : prompt ≠ []
  /-- There are as many runs as steps. -/
  length_runs : (graphRuns requests).length = result.steps
  /-- Each run is given the prompt and the tokens before it, and asked for the logits. -/
  submitted : ∀ (position : Nat) (run : GraphRun), (graphRuns requests)[position]? = some run →
    run.feed = submission (prompt ++ result.tokenIds.take position) ∧ run.outputs = ["logits"]
  /-- Each token is the choice of its run. -/
  chosen : ∀ (position : Nat) (id : Int), result.tokenIds[position]? = some id →
    ∃ run : GraphRun, (graphRuns requests)[position]? = some run ∧
      run.choice (prompt.length + position) = .ok id
  endId_notMem : endId ∉ result.tokenIds
  steps_le : (result.steps : Int) ≤ max budget 0
  steps_eq : result.steps =
    result.tokenIds.length + if result.stopReason = .endToken then 1 else 0
  /-- The text is that of the tokens, which were decoded one by one. -/
  text_eq : ∃ pieces, pieces.length = result.tokenIds.length ∧
    decodings requests =
      List.zipWith (fun id piece => ([id], .ok piece)) result.tokenIds pieces ∧
    result.text = String.join pieces
  /-- The end token was met when the last run chose it. -/
  ended_iff : result.stopReason = .endToken ↔
    ∃ (position : Nat) (run : GraphRun), position + 1 = result.steps ∧
      (graphRuns requests)[position]? = some run ∧
      run.choice (prompt.length + position) = .ok endId
  newline_iff : result.stopReason = .newline ↔
    stopOnNewline = true ∧ result.AddedLast ∧ result.text.endsWith "\n" = true
  spent : result.stopReason = .maxTokens → (result.steps : Int) = max budget 0

/-! ## One run -/

theorem wordOfInt_eq_ok {id word : Int} (fits : wordOfInt id = .ok word) : word = id := by
  rcases wordOfInt_cases id with ⟨_, made⟩ | ⟨_, refused⟩
  · exact Except.ok.inj (fits.symm.trans made)
  · cases fits.symm.trans refused

theorem tokenInputs_eq_ok {ids : List Int} {feed : NamedTensors}
    (inputs : tokenInputs ids = .ok feed) : feed = submission ids := by
  obtain ⟨words, fits, rfl⟩ := Outcome.map_eq_ok.mp inputs
  rw [Outcome.eq_map_of_mapM_eq_ok (fun _ _ => wordOfInt_eq_ok) fits]
  simp [inputsOfWords, submission]

namespace Generator

variable {σ : Type}

/-- A token comes from one run of the graph on the whole sequence, and is its choice. -/
theorem recorded_nextToken {generator : Generator σ} {tokens : List Int} {id : Int}
    {scene after : Scene (Recorded GenerationRequest σ)}
    (next : (generator.recorded.nextToken tokens).perform scene = (.ok id, after)) :
    ∃ outputs, after.world.requests =
        scene.world.requests ++ [.run (submission tokens) ["logits"] (.ok outputs)] ∧
      (GraphRun.mk (submission tokens) ["logits"] (.ok outputs)).choice tokens.length = .ok id := by
  obtain ⟨feed, _, fed, afterFeed⟩ := Action.perform_bind_eq_ok.mp next
  obtain ⟨inputs, rfl⟩ := Action.perform_ofExcept_eq_ok.mp fed
  obtain rfl := tokenInputs_eq_ok inputs
  obtain ⟨outputs, _, ran, afterRun⟩ := Action.perform_bind_eq_ok.mp afterFeed
  obtain ⟨logits, _, checked, chosen⟩ := Action.perform_bind_eq_ok.mp afterRun
  obtain ⟨required, rfl⟩ := Action.perform_ofExcept_eq_ok.mp checked
  cases chosen
  obtain ⟨answered, rfl⟩ := Prod.mk.inj ran
  refine ⟨outputs, ?_, ?_⟩
  · dsimp only
    rw [answered]
  · exact Outcome.bind_eq_ok.mpr ⟨outputs, rfl, Outcome.bind_eq_ok.mpr ⟨logits, required, rfl⟩⟩

/-- A piece of text comes from one request for the text of one token. -/
theorem recorded_decode {generator : Generator σ} {id : Int} {piece : String}
    {scene after : Scene (Recorded GenerationRequest σ)}
    (decoded : (generator.recorded.tokenizer.decode [id]).perform scene = (.ok piece, after)) :
    after.world.requests = scene.world.requests ++ [.decoding [id] (.ok piece)] := by
  obtain ⟨answered, rfl⟩ := Prod.mk.inj decoded
  dsimp only
  rw [answered]

end Generator

/-! ## The way so far -/

/-- What the law says of a decoding between two steps. -/
structure Tracked (budget : Int) (text : Text.CodePoints) (requests : List GenerationRequest)
    (decoding : Decoding) : Prop where
  opened :
    [.encoding (.ofPoints text) (.ok decoding.prompt), .ending (.ok decoding.endId)] <+: requests
  prompt_ne_nil : decoding.prompt ≠ []
  steps_eq : decoding.steps = decoding.produced.length
  steps_le : (decoding.steps : Int) ≤ max budget 0
  length_runs : (graphRuns requests).length = decoding.steps
  submitted : ∀ (position : Nat) (run : GraphRun), (graphRuns requests)[position]? = some run →
    run.feed = submission (decoding.prompt ++ decoding.produced.take position) ∧
      run.outputs = ["logits"]
  chosen : ∀ (position : Nat) (id : Int), decoding.produced[position]? = some id →
    ∃ run : GraphRun, (graphRuns requests)[position]? = some run ∧
      run.choice (decoding.prompt.length + position) = .ok id
  endId_notMem : decoding.endId ∉ decoding.produced
  text_eq : ∃ pieces, pieces.length = decoding.produced.length ∧
    decodings requests =
      List.zipWith (fun id piece => ([id], .ok piece)) decoding.produced pieces ∧
    decoding.text = String.join pieces

theorem getElem?_concat_eq_some {α : Type} {items : List α} {item found : α} {position : Nat} :
    (items ++ [item])[position]? = some found ↔
      items[position]? = some found ∨ position = items.length ∧ item = found := by
  rcases Nat.lt_trichotomy position items.length with before | rfl | behind
  · rw [List.getElem?_append_left before]
    simp [Nat.ne_of_lt before]
  · simp
  · have outside : items.length ≤ position := Nat.le_of_lt behind
    have single : [item][position - items.length]? = none :=
      List.getElem?_eq_none (Nat.sub_pos_of_lt behind)
    rw [List.getElem?_append_right outside, List.getElem?_eq_none outside, single]
    simp [Nat.ne_of_gt behind]

namespace Tracked

variable {σ : Type} {budget : Int} {text : Text.CodePoints} {requests : List GenerationRequest}
  {decoding : Decoding}

/-- A decoding that starts has asked for the prompt's tokens and the end token. -/
theorem start (budget : Int) (generator : Generator σ)
    (free : generator.settings.maxSeconds = .null) {maxTokens : Value} {scene : Scene σ}
    {after : Scene (Recorded GenerationRequest σ)}
    (started : (generator.recorded.start text maxTokens).perform
      ⟨⟨scene.world, []⟩, scene.journal⟩ = (.ok decoding, after)) :
    decoding.budget = generator.budget maxTokens ∧ decoding.deadline = none ∧
      decoding.steps = 0 ∧ Tracked budget text after.world.requests decoding := by
  rw [Generator.start, Generator.deadline_of_null generator.recorded free, pure_bind] at started
  obtain ⟨prompt, _, encoded, afterPrompt⟩ := Action.perform_bind_eq_ok.mp started
  by_cases empty : prompt.isEmpty = true
  · rw [if_pos empty] at afterPrompt
    cases afterPrompt
  · rw [if_neg empty] at afterPrompt
    obtain ⟨endId, _, ending, given⟩ := Action.perform_bind_eq_ok.mp afterPrompt
    cases given
    obtain ⟨encodedAs, rfl⟩ := Prod.mk.inj encoded
    obtain ⟨endingAs, rfl⟩ := Prod.mk.inj ending
    refine ⟨rfl, rfl, rfl, ?_⟩
    dsimp only
    rw [encodedAs, endingAs]
    constructor
    case opened => exact List.prefix_rfl
    case prompt_ne_nil => simpa using empty
    case steps_eq => rfl
    case steps_le => exact Int.le_max_right _ _
    case length_runs => rfl
    case submitted =>
      intro position run found
      cases found
    case chosen =>
      intro position id found
      cases found
    case endId_notMem => exact List.not_mem_nil
    case text_eq => exact ⟨[], rfl, rfl, rfl⟩

/-- The runs so far and one more, which is given the whole sequence so far. -/
theorem submitted_more (tracked : Tracked budget text requests decoding)
    (answer : Except Fault NamedTensors) (more : List Int) {position : Nat} {run : GraphRun}
    (found : (graphRuns requests ++ [⟨submission decoding.tokens, ["logits"], answer⟩])[position]? =
      some run) :
    run.feed = submission (decoding.prompt ++ (decoding.produced ++ more).take position) ∧
      run.outputs = ["logits"] := by
  have lengths := tracked.length_runs.trans tracked.steps_eq
  rcases getElem?_concat_eq_some.mp found with earlier | ⟨rfl, rfl⟩
  · have inside : position < (graphRuns requests).length :=
      (List.getElem?_eq_some_iff.mp earlier).1
    rw [List.take_append_of_le_length (by omega)]
    exact tracked.submitted position run earlier
  · rw [lengths, List.take_left]
    exact ⟨rfl, rfl⟩

/-- One more step: a run whose choice is not the end token, and the text of its token. -/
theorem more (tracked : Tracked budget text requests decoding) {outputs : NamedTensors} {id : Int}
    (piece : String) (below : (decoding.steps : Int) < budget) (ne : id ≠ decoding.endId)
    (choice : (GraphRun.mk (submission decoding.tokens) ["logits"] (.ok outputs)).choice
      decoding.tokens.length = .ok id) :
    Tracked budget text
      (requests ++ [.run (submission decoding.tokens) ["logits"] (.ok outputs),
        .decoding [id] (.ok piece)])
      ({ decoding with steps := decoding.steps + 1 }.push id piece) := by
  have runs : graphRuns (requests ++ [.run (submission decoding.tokens) ["logits"] (.ok outputs),
      .decoding [id] (.ok piece)]) =
        graphRuns requests ++ [⟨submission decoding.tokens, ["logits"], .ok outputs⟩] :=
    graphRuns_append _ _
  have lengths := tracked.length_runs.trans tracked.steps_eq
  obtain ⟨pieces, sameLength, texts, joined⟩ := tracked.text_eq
  constructor
  case opened => exact tracked.opened.trans (List.prefix_append _ _)
  case prompt_ne_nil => exact tracked.prompt_ne_nil
  case steps_eq => simp [Decoding.push, tracked.steps_eq]
  case steps_le =>
    change ((decoding.steps + 1 : Nat) : Int) ≤ max budget 0
    omega
  case length_runs =>
    rw [runs]
    simp [Decoding.push, tracked.length_runs]
  case submitted =>
    intro position run found
    rw [runs] at found
    exact tracked.submitted_more _ _ found
  case chosen =>
    intro position chosen found
    rw [runs]
    rcases getElem?_concat_eq_some.mp found with earlier | ⟨rfl, rfl⟩
    · obtain ⟨run, at', choice'⟩ := tracked.chosen position chosen earlier
      exact ⟨run, getElem?_concat_eq_some.mpr (.inl at'), choice'⟩
    · refine ⟨_, getElem?_concat_eq_some.mpr (.inr ⟨lengths.symm, rfl⟩), ?_⟩
      rw [← choice, Decoding.tokens, List.length_append]
      rfl
  case endId_notMem => simpa [Decoding.push] using ⟨tracked.endId_notMem, ne.symm⟩
  case text_eq =>
    refine ⟨pieces ++ [piece], by simp [Decoding.push, sameLength], ?_, ?_⟩
    · rw [decodings_append, texts, Decoding.push, List.zipWith_append sameLength.symm]
      rfl
    · simp [Decoding.push, joined, String.join]

/-- **Strides keep the law's part about the way so far.** -/
theorem strides {generator : Generator σ} {last : Decoding} {count : Nat}
    {start after : Scene (Recorded GenerationRequest σ)}
    (tracked : Tracked budget text start.world.requests decoding)
    (strides : generator.recorded.Strides budget decoding start count last after) :
    Tracked budget text after.world.requests last := by
  induction strides with
  | none => exact tracked
  | more _ goesOn piece ih =>
      obtain ⟨id, _, next, ne, decoded, rfl⟩ := Generator.stride_piece piece
      obtain ⟨outputs, asked, choice⟩ := Generator.recorded_nextToken next
      rw [Generator.recorded_decode decoded, asked, List.append_assoc]
      exact ih.more _ goesOn.2 ne choice

/-! ## The three ends -/

theorem endsWith_newline_ne_empty {text : String} (ends : text.endsWith "\n" = true) :
    text ≠ "" := by
  rintro rfl
  revert ends
  decide

/-- The reason for an end after a whole number of steps that each gave a token. -/
theorem law_of_reason (tracked : Tracked budget text requests decoding) {stopOnNewline : Bool}
    {reason : StopReason} (notEnded : reason ≠ .endToken)
    (newline_iff : reason = .newline ↔
      stopOnNewline = true ∧ decoding.text.endsWith "\n" = true)
    (spent : reason = .maxTokens → budget ≤ decoding.steps) :
    DecodingLaw stopOnNewline budget text decoding.prompt decoding.endId requests
      (decoding.result reason) := by
  obtain ⟨pieces, sameLength, texts, joined⟩ := tracked.text_eq
  constructor
  case opened => exact tracked.opened
  case prompt_ne_nil => exact tracked.prompt_ne_nil
  case length_runs => exact tracked.length_runs
  case submitted => exact tracked.submitted
  case chosen => exact tracked.chosen
  case endId_notMem => exact tracked.endId_notMem
  case steps_le => exact tracked.steps_le
  case steps_eq =>
    rw [Decoding.result, if_neg notEnded]
    exact tracked.steps_eq
  case text_eq => exact ⟨pieces, sameLength, texts, joined⟩
  case ended_iff =>
    refine ⟨fun ended => absurd ended notEnded, ?_⟩
    rintro ⟨position, run, last, found, choice⟩
    -- the last run chose the last token, which is not the end token
    have inside : position < decoding.produced.length := by
      rw [← tracked.steps_eq]
      exact Nat.lt_of_succ_le (Nat.le_of_eq last)
    obtain ⟨run', found', choice'⟩ :=
      tracked.chosen position _ (List.getElem?_eq_getElem inside)
    obtain rfl : run' = run := Option.some.inj (found'.symm.trans found)
    have same : decoding.produced[position] = decoding.endId :=
      Except.ok.inj (choice'.symm.trans choice)
    exact absurd (same ▸ List.getElem_mem inside) tracked.endId_notMem
  case newline_iff =>
    refine newline_iff.trans ⟨?_, fun ⟨asked, _, ends⟩ => ⟨asked, ends⟩⟩
    rintro ⟨asked, ends⟩
    refine ⟨asked, ⟨fun none => endsWith_newline_ne_empty ends ?_, tracked.steps_eq⟩, ends⟩
    have noPieces : pieces = [] := List.eq_nil_of_length_eq_zero (sameLength.trans (by
      rw [show decoding.produced = [] from none]
      rfl))
    rw [joined, noPieces]
    rfl
  case spent =>
    intro maxTokens
    have enough := spent maxTokens
    have most := tracked.steps_le
    simp only [Decoding.result]
    omega

/-- The end of a decoding by the end token. -/
theorem law_of_endToken (tracked : Tracked budget text requests decoding) (stopOnNewline : Bool)
    {outputs : NamedTensors} (below : (decoding.steps : Int) < budget)
    (choice : (GraphRun.mk (submission decoding.tokens) ["logits"] (.ok outputs)).choice
      decoding.tokens.length = .ok decoding.endId) :
    DecodingLaw stopOnNewline budget text decoding.prompt decoding.endId
      (requests ++ [.run (submission decoding.tokens) ["logits"] (.ok outputs)])
      ({ decoding with steps := decoding.steps + 1 }.result .endToken) := by
  have runs : graphRuns (requests ++ [.run (submission decoding.tokens) ["logits"] (.ok outputs)]) =
      graphRuns requests ++ [⟨submission decoding.tokens, ["logits"], .ok outputs⟩] :=
    graphRuns_append _ _
  have lengths := tracked.length_runs.trans tracked.steps_eq
  obtain ⟨pieces, sameLength, texts, joined⟩ := tracked.text_eq
  constructor
  case opened => exact tracked.opened.trans (List.prefix_append _ _)
  case prompt_ne_nil => exact tracked.prompt_ne_nil
  case length_runs =>
    rw [runs]
    simp [Decoding.result, tracked.length_runs]
  case submitted =>
    intro position run found
    rw [runs] at found
    have fed := tracked.submitted_more _ [] found
    rwa [List.append_nil] at fed
  case chosen =>
    intro position id found
    obtain ⟨run, at', choice'⟩ := tracked.chosen position id found
    rw [runs]
    exact ⟨run, getElem?_concat_eq_some.mpr (.inl at'), choice'⟩
  case endId_notMem => exact tracked.endId_notMem
  case steps_le =>
    change ((decoding.steps + 1 : Nat) : Int) ≤ max budget 0
    omega
  case steps_eq => simp [Decoding.result, tracked.steps_eq]
  case text_eq =>
    refine ⟨pieces, sameLength, ?_, joined⟩
    rw [decodings_append, texts]
    exact List.append_nil _
  case ended_iff =>
    refine ⟨fun _ => ⟨decoding.steps, ⟨submission decoding.tokens, ["logits"], .ok outputs⟩,
      rfl, ?_, ?_⟩, fun _ => rfl⟩
    · rw [runs]
      exact getElem?_concat_eq_some.mpr (.inr ⟨tracked.length_runs.symm, rfl⟩)
    · rw [← choice, Decoding.tokens, List.length_append, tracked.steps_eq]
  case newline_iff =>
    refine ⟨nofun, ?_⟩
    rintro ⟨_, added, _⟩
    have short : decoding.steps + 1 = decoding.produced.length := added.2
    have := tracked.steps_eq
    omega
  case spent => exact nofun

/-- **Each end of a decoding completes the law.** -/
theorem law_of_advance (tracked : Tracked budget text requests decoding) {generator : Generator σ}
    (whole : decoding.budget = .whole budget) (free : decoding.deadline = none)
    {scene after : Scene (Recorded GenerationRequest σ)} (asked : scene.world.requests = requests)
    {result : Generated}
    (ended : (generator.recorded.advance (pure false) decoding).perform scene =
      (.ok (.done result), after)) :
    DecodingLaw generator.settings.stopOnNewline.isTruthy budget text decoding.prompt decoding.endId
      after.world.requests result := by
  subst asked
  cases newline : generator.recorded.atNewline decoding with
  | true =>
      rw [Generator.perform_advance_of_newline _ _ newline] at ended
      cases ended
      exact tracked.law_of_reason nofun ⟨fun _ => Bool.and_eq_true_iff.mp newline, fun _ => rfl⟩
        nofun
  | false =>
      by_cases below : (decoding.steps : Int) < budget
      · rw [Generator.perform_advance_free _ whole free ⟨newline, below⟩] at ended
        obtain ⟨middle, next, rfl, sameWorld⟩ := Generator.stride_done ended
        obtain ⟨outputs, asked, choice⟩ := Generator.recorded_nextToken next
        rw [sameWorld, asked]
        exact tracked.law_of_endToken _ below choice
      · have spent : budget ≤ decoding.steps := Int.not_lt.mp below
        rw [Generator.perform_advance_of_spent _ _ whole newline spent] at ended
        cases ended
        refine tracked.law_of_reason nofun ⟨nofun, fun both => ?_⟩ fun _ => spent
        exact absurd (Bool.and_eq_true_iff.mpr both) (Bool.eq_false_iff.mp newline)

end Tracked

/-! ## Whole decodings -/

/-- **The law of decoding.**  Whenever a decoding that is not cancelled and has no deadline gives a
result, the same decoding by the recorded generator gives the same result, and what it wrote down
obeys the law. -/
theorem Generator.generateDetailed_law {σ : Type} (generator : Generator σ) (text : Text.CodePoints)
    (maxTokens : Value) {budget : Int} (whole : generator.budget maxTokens = .whole budget)
    (free : generator.settings.maxSeconds = .null) {scene after : Scene σ} {result : Generated}
    (returned : (generator.generateDetailed text maxTokens (pure false)).perform scene =
      (.ok result, after)) :
    ∃ prompt endId requests,
      (generator.recorded.generateDetailed text maxTokens (pure false)).perform
          ⟨⟨scene.world, []⟩, scene.journal⟩ =
        (.ok result, ⟨⟨after.world, requests⟩, after.journal⟩) ∧
      DecodingLaw generator.settings.stopOnNewline.isTruthy budget text prompt endId requests
        result := by
  have mirrored := generator.generateDetailed_mirrors text maxTokens (.pure false)
    ⟨⟨scene.world, []⟩, scene.journal⟩
  rcases performed : (generator.recorded.generateDetailed text maxTokens (pure false)).perform
    ⟨⟨scene.world, []⟩, scene.journal⟩ with ⟨outcome, final⟩
  rw [performed] at mirrored
  obtain ⟨rfl, rfl⟩ := Prod.mk.inj (returned.symm.trans mirrored)
  rw [Generator.generateDetailed_eq] at performed
  obtain ⟨decoding, middle, started, drained⟩ := Action.perform_bind_eq_ok.mp performed
  obtain ⟨sameBudget, noDeadline, noSteps, tracked⟩ :=
    Tracked.start budget generator free started
  have wholeBudget := sameBudget.trans whole
  obtain ⟨count, last, between, outcome, ending, strides, ended, same⟩ :=
    generator.recorded.drain_course (decoding.budget.steps + 1) decoding [] middle wholeBudget
      noDeadline (by omega) (by rw [wholeBudget]; simp only [Limit.steps]; omega)
  obtain ⟨rfl, rfl⟩ := Prod.mk.inj (same.symm.trans drained)
  obtain ⟨-, lastBudget, lastDeadline, -⟩ := strides.kept
  exact ⟨last.prompt, last.endId, _, rfl, (tracked.strides strides).law_of_advance
    (lastBudget.trans wholeBudget) (lastDeadline.trans noDeadline) rfl ended⟩

/-- The law of a decoding that writes one token and ends. -/
theorem Generator.brief_law :
    ∃ prompt endId requests,
      (brief.recorded.generateDetailed (.ofString "p") (.integer 3) (pure false)).perform
          ⟨⟨0, []⟩, ⟨40, []⟩⟩ =
        (.ok ⟨"a", [1], .endToken, 2⟩, ⟨⟨2, requests⟩, ⟨40, []⟩⟩) ∧
      DecodingLaw false 3 (.ofString "p") prompt endId requests ⟨"a", [1], .endToken, 2⟩ := by
  have returned : (brief.generateDetailed (.ofString "p") (.integer 3) (pure false)).perform
      ⟨0, ⟨40, []⟩⟩ = (.ok ⟨"a", [1], .endToken, 2⟩, ⟨2, ⟨40, []⟩⟩) := rfl
  have whole : brief.budget (.integer 3) = .whole 3 := rfl
  have free : brief.settings.maxSeconds = .null := rfl
  have law := brief.generateDetailed_law (.ofString "p") (.integer 3) whole free returned
  exact law

end RecallChat
