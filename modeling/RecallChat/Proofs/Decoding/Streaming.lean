import RecallChat.Proofs.Decoding.Blame
import RecallChat.Proofs.Decoding.Delivery
import RecallChat.Proofs.Decoding.Law

/-!
# Streaming

A stream is lazy: what it has asked of its components is what the delivered pieces took, one run of
the graph and the text of one token for each piece (`Written`).  Drained, it has delivered the texts
of the tokens that the whole decoding chooses from the same scene, and ends in the same way.

When a decoding is stopped from outside, its fault reports what the pieces add up to.  A graph or a
tokenizer can also fail with such a fault itself, and what that reports is its own affair
(`impostor_reports`).  The main theorem is `stream_agrees`.
-/

set_option autoImplicit false

namespace RecallChat.Generator

open RecallChat.Action

variable {σ : Type} {generator : Generator σ} {cancelled : Action σ Bool}

/-! ## Recorded streams -/

theorem deliver_mirrors (decoding : Decoding) :
    Mirrors Recorded.inner (generator.recorded.deliver cancelled.unrecorded decoding)
      (generator.deliver cancelled decoding) := by
  refine .bind (advance_mirrors generator (unrecorded_mirrors cancelled) decoding) ?_
  intro progress
  cases progress with
  | piece text next => exact .pure _
  | done result => exact .pure _

/-- A recorded stream gives what the plain one gives. -/
theorem next_mirrors (generator : Generator σ) (cancelled : Action σ Bool) (stream : Stream) :
    Mirrors Recorded.inner (generator.recorded.next cancelled.unrecorded stream)
      (generator.next cancelled stream) := by
  refine .bind (.attempt ?_) fun result => ?_
  · rcases stream with ⟨prompt, maxTokens⟩ | decoding | _
    · exact .bind (start_mirrors generator prompt maxTokens) fun _ => deliver_mirrors _
    · exact deliver_mirrors decoding
    · exact .pure _
  · cases result with
    | error fault => exact .pure _
    | ok given => exact .pure _

variable {first : Stream} {begun : Scene (Recorded GenerationRequest σ)} {pieces : List String}

theorem Delivers.plain {last : Stream} {after : Scene (Recorded GenerationRequest σ)}
    (delivers : generator.recorded.Delivers cancelled.unrecorded first begun pieces last after) :
    generator.Delivers cancelled first (sceneOf Recorded.inner begun) pieces last
      (sceneOf Recorded.inner after) := by
  induction delivers with
  | none => exact .none
  | @more _ _ stream _ scene _ _ asked ih =>
      have mirrored := next_mirrors generator cancelled stream scene
      rw [asked] at mirrored
      exact .more ih mirrored

theorem Drains.plain {α : Type} {outcome : Except Fault α}
    {after : Scene (Recorded GenerationRequest σ)}
    (drains : generator.recorded.Drains cancelled.unrecorded first begun pieces outcome after) :
    generator.Drains cancelled first (sceneOf Recorded.inner begun) pieces outcome
      (sceneOf Recorded.inner after) := by
  obtain ⟨last, between, delivers, asked⟩ := drains
  refine ⟨last, _, delivers.plain, ?_⟩
  rw [next_mirrors generator cancelled last between, asked]

/-! ## What pieces take -/

/-- What was asked for the pieces delivered so far, and what the decoding has made of it. -/
structure Written (requests : List GenerationRequest) (pieces : List String)
    (decoding : Decoding) : Prop where
  length_runs : (graphRuns requests).length = pieces.length
  steps_eq : decoding.steps = pieces.length
  length_ids : decoding.produced.length = pieces.length
  texts_eq : textsGiven requests =
    List.zipWith (fun id piece => ([id], piece)) decoding.produced pieces
  text_eq : decoding.text = String.join pieces

/-- A decoding that starts has asked for no run and no text. -/
theorem Written.start {prompt : Text.CodePoints} {maxTokens : Value}
    {scene after : Scene (Recorded GenerationRequest σ)} {decoding : Decoding}
    (nothing : scene.world.requests = [])
    (started : (generator.recorded.start prompt maxTokens).perform scene = (.ok decoding, after)) :
    Written after.world.requests [] decoding := by
  obtain ⟨-, noSteps, noTokens, noText⟩ := start_eq_ok started
  have noRuns : Omits GenerationRequest.run? (generator.recorded.start prompt maxTokens) :=
    start_omits (fun _ => rfl) (fun _ _ => rfl) (fun _ => rfl) _ _
  have noTexts : Omits GenerationRequest.text? (generator.recorded.start prompt maxTokens) :=
    start_omits (fun _ => rfl) (fun _ _ => rfl) (fun _ => rfl) _ _
  have runs_eq := noRuns scene
  have texts_eq := noTexts scene
  rw [started, nothing] at runs_eq texts_eq
  constructor
  case length_runs => exact congrArg List.length runs_eq
  case steps_eq => exact noSteps
  case length_ids =>
    rw [noTokens]
    rfl
  case texts_eq =>
    rw [noTokens]
    exact texts_eq
  case text_eq => exact noText

/-- One more piece takes one run of the graph and the text of one token. -/
theorem Written.piece {requests : List GenerationRequest} {decoding next : Decoding} {budget : Int}
    {text : String} {scene after : Scene (Recorded GenerationRequest σ)}
    (written : Written requests pieces decoding) (asked : scene.world.requests = requests)
    (whole : decoding.budget = .whole budget)
    (advanced : (generator.recorded.advance cancelled.unrecorded decoding).perform scene =
      (.ok (.piece text next), after)) :
    Written after.world.requests (pieces ++ [text]) next := by
  subst asked
  obtain ⟨-, looked, checked, strode⟩ := advance_piece whole advanced
  have noRuns : Omits GenerationRequest.run?
      (generator.recorded.checkStop cancelled.unrecorded decoding) :=
    checkStop_omits (fun _ => rfl) decoding
  have noTexts : Omits GenerationRequest.text?
      (generator.recorded.checkStop cancelled.unrecorded decoding) :=
    checkStop_omits (fun _ => rfl) decoding
  have runs_eq := noRuns scene
  have given_eq := noTexts scene
  rw [checked] at runs_eq given_eq
  obtain ⟨id, middle, chosen, -, decoded, rfl⟩ := stride_piece strode
  obtain ⟨outputs, ran, -⟩ := recorded_nextToken chosen
  have requests_eq := recorded_decode decoded
  rw [ran, List.append_assoc] at requests_eq
  rw [requests_eq]
  change graphRuns looked.world.requests = graphRuns scene.world.requests at runs_eq
  change textsGiven looked.world.requests = textsGiven scene.world.requests at given_eq
  constructor
  case length_runs =>
    rw [graphRuns_append, runs_eq, List.length_append, written.length_runs, List.length_append]
    rfl
  case steps_eq =>
    rw [List.length_append, ← written.steps_eq]
    rfl
  case length_ids => simp [Decoding.push, written.length_ids]
  case texts_eq =>
    rw [textsGiven_append, given_eq, written.texts_eq, Decoding.push,
      List.zipWith_append written.length_ids]
    rfl
  case text_eq => simp [Decoding.push, written.text_eq, String.join]

section Delivered

variable {prompt : Text.CodePoints} {maxTokens : Value} {budget : Int}
  (whole : generator.budget maxTokens = .whole budget) (nothing : begun.world.requests = [])

include whole nothing

/-- What was asked when a stream takes up its decoding, having delivered some pieces. -/
theorem written_of_delivers {stream : Stream} {between scene : Scene (Recorded GenerationRequest σ)}
    {decoding : Decoding}
    (delivers : generator.recorded.Delivers cancelled.unrecorded (.fresh prompt maxTokens) begun
      pieces stream between)
    (resumes : generator.recorded.Resumes stream between decoding scene) :
    Written scene.world.requests pieces decoding ∧ decoding.budget = .whole budget := by
  induction delivers generalizing decoding scene with
  | none =>
      cases resumes with
      | fresh started =>
          obtain ⟨sameBudget, -⟩ := start_eq_ok started
          exact ⟨.start nothing started, sameBudget.trans whole⟩
  | more _ asked ih =>
      obtain ⟨earlier, middle, further, resumed, advanced, rfl⟩ := next_piece asked
      cases resumes
      obtain ⟨written, wholeEarlier⟩ := ih resumed
      obtain ⟨-, looked, -, strode⟩ := advance_piece wholeEarlier advanced
      obtain ⟨_, _, _, _, _, rfl⟩ := stride_piece strode
      exact ⟨written.piece rfl wholeEarlier advanced, wholeEarlier⟩

/-- A stream has run the graph once for each delivered piece, and has asked for nothing at all
before the first. -/
theorem runs_of_delivers {last : Stream} {after : Scene (Recorded GenerationRequest σ)}
    (delivers : generator.recorded.Delivers cancelled.unrecorded (.fresh prompt maxTokens) begun
      pieces last after) :
    (graphRuns after.world.requests).length = pieces.length ∧
      (pieces = [] → after.world.requests = []) := by
  cases delivers with
  | none =>
      rw [nothing]
      exact ⟨rfl, fun _ => rfl⟩
  | more delivers asked =>
      obtain ⟨decoding, middle, further, resumed, advanced, rfl⟩ := next_piece asked
      obtain ⟨written, wholeDecoding⟩ := written_of_delivers whole nothing delivers resumed
      have more := written.piece rfl wholeDecoding advanced
      refine ⟨more.length_runs, fun none => ?_⟩
      exact absurd none (List.append_ne_nil_of_right_ne_nil _ (List.cons_ne_nil _ _))

end Delivered

/-! ## The end -/

/-- A stride that gives no piece is given no text, and its result is what the decoding has. -/
theorem stride_end {decoding : Decoding} {scene after : Scene (Recorded GenerationRequest σ)}
    {outcome : Except Fault Generated}
    (ended : (generator.recorded.stride decoding).perform scene =
      (outcome.map Progress.done, after)) :
    textsGiven after.world.requests = textsGiven scene.world.requests ∧
      ∀ result, outcome = .ok result →
        result.tokenIds = decoding.produced ∧ result.text = decoding.text := by
  have asksNone : Omits GenerationRequest.text?
      (generator.recorded.nextToken decoding.tokens) := nextToken_omits (fun _ _ _ => rfl) _
  have noTexts := asksNone scene
  unfold stride at ended
  rw [perform_bind] at ended
  rcases chosen : (generator.recorded.nextToken decoding.tokens).perform scene with
    ⟨fault | id, middle⟩
  · rw [chosen] at ended noTexts
    obtain ⟨failed, rfl⟩ := Prod.mk.inj ended
    refine ⟨noTexts, fun result same => ?_⟩
    rw [same] at failed
    cases failed
  · rw [chosen] at ended noTexts
    dsimp only at ended
    by_cases last : id = decoding.endId
    · rw [if_pos last, perform_finish] at ended
      obtain ⟨done, rfl⟩ := Prod.mk.inj ended
      refine ⟨noTexts, fun result same => ?_⟩
      rw [same] at done
      cases done
      exact ⟨rfl, rfl⟩
    · rw [if_neg last, perform_bind] at ended
      rcases decoded : (generator.recorded.tokenizer.decode [id]).perform middle with
        ⟨fault | text, given⟩
      · rw [decoded] at ended
        obtain ⟨failed, rfl⟩ := Prod.mk.inj ended
        obtain ⟨answered, rfl⟩ := Prod.mk.inj decoded
        constructor
        · dsimp only
          rw [answered, textsGiven_append]
          exact (List.append_nil _).trans noTexts
        · intro result same
          rw [same] at failed
          cases failed
      · rw [decoded] at ended
        cases outcome with
        | error fault => cases ended
        | ok result => cases ended

/-- A step that gives no piece is given no text, and its result is what the decoding has. -/
theorem advance_end {decoding : Decoding} {budget : Int}
    (whole : decoding.budget = .whole budget)
    {scene after : Scene (Recorded GenerationRequest σ)} {outcome : Except Fault Generated}
    (ended : (generator.recorded.advance cancelled.unrecorded decoding).perform scene =
      (outcome.map Progress.done, after)) :
    textsGiven after.world.requests = textsGiven scene.world.requests ∧
      ∀ result, outcome = .ok result →
        result.tokenIds = decoding.produced ∧ result.text = decoding.text := by
  by_cases goesOn : generator.recorded.GoesOn budget decoding
  · have asksNone : Omits GenerationRequest.text?
        (generator.recorded.checkStop cancelled.unrecorded decoding) :=
      checkStop_omits (fun _ => rfl) decoding
    have noTexts := asksNone scene
    rw [perform_advance_of_goesOn _ _ whole goesOn, perform_bind] at ended
    rcases checked : (generator.recorded.checkStop cancelled.unrecorded decoding).perform scene with
      ⟨fault | _, looked⟩
    · rw [checked] at ended noTexts
      obtain ⟨failed, rfl⟩ := Prod.mk.inj ended
      refine ⟨noTexts, fun result same => ?_⟩
      rw [same] at failed
      cases failed
    · rw [checked] at ended noTexts
      obtain ⟨texts_eq, results⟩ := stride_end ended
      exact ⟨texts_eq.trans noTexts, results⟩
  · obtain ⟨reason, stopped⟩ := advance_of_not_goesOn generator.recorded cancelled.unrecorded
      whole goesOn scene
    rw [stopped] at ended
    obtain ⟨done, rfl⟩ := Prod.mk.inj ended
    refine ⟨rfl, fun result same => ?_⟩
    rw [same] at done
    cases done
    exact ⟨rfl, rfl⟩

/-! ## Streams and whole decodings -/

/-- What the requests of a stream say of its pieces and its end. -/
structure StreamLaw (requests : List GenerationRequest) (pieces : List String) (ids : List Int)
    (outcome : Except Fault Generated) : Prop where
  /-- The pieces are the texts of the tokens, each of which was decoded alone. -/
  length_ids : ids.length = pieces.length
  texts_eq : textsGiven requests = List.zipWith (fun id piece => ([id], piece)) ids pieces
  /-- The tokens are those of the result, and the pieces add up to its text. -/
  result_eq : ∀ result, outcome = .ok result →
    result.tokenIds = ids ∧ result.text = String.join pieces
  /-- The fault of a stop that no component has answered with reports what the pieces add up to. -/
  report_eq : ∀ fault text steps, outcome = .error fault → fault ∉ faultsRaised requests →
    fault.partial? = some (text, steps) → text = String.join pieces ∧ steps = pieces.length

/-- The law of a stream whose decoding ends by advancing. -/
theorem Written.law {requests : List GenerationRequest} {decoding : Decoding} {budget : Int}
    (written : Written requests pieces decoding) (whole : decoding.budget = .whole budget)
    (sure : cancelled.Ends (fun _ => True) fun _ => False)
    {scene after : Scene (Recorded GenerationRequest σ)} (asked : scene.world.requests = requests)
    {outcome : Except Fault Generated}
    (ended : (generator.recorded.advance cancelled.unrecorded decoding).perform scene =
      (outcome.map Progress.done, after)) :
    StreamLaw after.world.requests pieces decoding.produced outcome := by
  subst asked
  obtain ⟨texts_eq, results⟩ := advance_end whole ended
  constructor
  case length_ids => exact written.length_ids
  case texts_eq => exact texts_eq.trans written.texts_eq
  case result_eq =>
    intro result same
    obtain ⟨ids_eq, text_eq⟩ := results result same
    exact ⟨ids_eq, text_eq.trans written.text_eq⟩
  case report_eq =>
    intro fault text steps same unanswered report
    rw [same] at ended
    rcases advance_blames sure whole scene fault after ended with answered | own
    · exact absurd answered unanswered
    · obtain ⟨rfl, rfl⟩ := Prod.mk.inj (own _ report)
      exact ⟨written.text_eq, congrArg Int.ofNat written.steps_eq⟩

/-- The law of a stream whose decoding cannot be started. -/
theorem law_of_unstarted {prompt : Text.CodePoints} {maxTokens : Value} {fault : Fault}
    (nothing : begun.world.requests = []) {after : Scene (Recorded GenerationRequest σ)}
    (failed : (generator.recorded.start prompt maxTokens).perform begun = (.error fault, after)) :
    StreamLaw after.world.requests [] [] (.error fault) := by
  have asksNone : Omits GenerationRequest.text? (generator.recorded.start prompt maxTokens) :=
    start_omits (fun _ => rfl) (fun _ _ => rfl) (fun _ => rfl) _ _
  have noTexts := asksNone begun
  rw [failed, nothing] at noTexts
  constructor
  case length_ids => rfl
  case texts_eq => exact noTexts
  case result_eq => exact nofun
  case report_eq =>
    intro fault' text steps same unanswered report
    cases same
    rcases start_blames prompt maxTokens begun fault after failed with answered | none
    · exact absurd answered unanswered
    · rw [none] at report
      cases report

/-- **A stream agrees with the whole decoding, and is lazy.**  Drained from the same scene, with the
same requests, it ends as the whole decoding does and leaves the same scene; its pieces are the
texts of the tokens.  Each delivered piece has taken one run of the graph, and before the first was
asked for nothing was. -/
theorem stream_agrees (generator : Generator σ) (prompt : Text.CodePoints) (maxTokens : Value)
    {budget : Int} (whole : generator.budget maxTokens = .whole budget)
    (sure : cancelled.Ends (fun _ => True) fun _ => False) (scene : Scene σ) :
    ∃ pieces ids outcome after requests,
      (generator.generateDetailed prompt maxTokens cancelled).perform scene = (outcome, after) ∧
      generator.Drains cancelled (.fresh prompt maxTokens) scene pieces outcome after ∧
      (generator.recorded.generateDetailed prompt maxTokens cancelled.unrecorded).perform
          ⟨⟨scene.world, []⟩, scene.journal⟩ =
        (outcome, ⟨⟨after.world, requests⟩, after.journal⟩) ∧
      generator.recorded.Drains cancelled.unrecorded (.fresh prompt maxTokens)
        ⟨⟨scene.world, []⟩, scene.journal⟩ pieces outcome
        ⟨⟨after.world, requests⟩, after.journal⟩ ∧
      StreamLaw requests pieces ids outcome ∧
      ∀ delivered last reached,
        generator.recorded.Delivers cancelled.unrecorded (.fresh prompt maxTokens)
            ⟨⟨scene.world, []⟩, scene.journal⟩ delivered last reached →
          (graphRuns reached.world.requests).length = delivered.length ∧
          (delivered = [] → reached.world.requests = []) := by
  let begun : Scene (Recorded GenerationRequest σ) := ⟨⟨scene.world, []⟩, scene.journal⟩
  have lazily : ∀ delivered last reached,
      generator.recorded.Delivers cancelled.unrecorded (.fresh prompt maxTokens) begun delivered
          last reached →
        (graphRuns reached.world.requests).length = delivered.length ∧
        (delivered = [] → reached.world.requests = []) :=
    fun _ _ _ delivers => runs_of_delivers whole rfl delivers
  have mirrored := generateDetailed_mirrors generator prompt maxTokens
    (unrecorded_mirrors cancelled) begun
  obtain ⟨pieces, ids, outcome, after, decoded, drains, law⟩ :
      ∃ pieces ids outcome after,
        (generator.recorded.decodeAll prompt maxTokens cancelled.unrecorded).perform begun =
          (Except.map (fun result => (pieces, result)) outcome, after) ∧
        generator.recorded.Drains cancelled.unrecorded (.fresh prompt maxTokens) begun pieces
          outcome after ∧
        StreamLaw after.world.requests pieces ids outcome := by
    have wholeRecorded : generator.recorded.budget maxTokens = .whole budget := whole
    rcases decodeAll_course wholeRecorded begun cancelled.unrecorded prompt with
      ⟨fault, after, unstarted, decoded⟩ |
      ⟨pieces, stream, between, last, reached, outcome, after, delivers, resumes, ended, decoded⟩
    · exact ⟨[], [], .error fault, after, decoded,
        ⟨_, _, .none, perform_next_of_unstarted unstarted⟩, law_of_unstarted rfl unstarted⟩
    · obtain ⟨written, wholeLast⟩ := written_of_delivers whole rfl delivers resumes
      exact ⟨pieces, last.produced, outcome, after, decoded, delivers.drains resumes ended,
        written.law wholeLast sure rfl ended⟩
  have batch : (generator.recorded.generateDetailed prompt maxTokens
      cancelled.unrecorded).perform begun = (outcome, after) := by
    rw [generateDetailed, perform_map, decoded]
    cases outcome with
    | error fault => rfl
    | ok result => rfl
  rw [batch] at mirrored
  exact ⟨pieces, ids, outcome, sceneOf Recorded.inner after, after.world.requests, mirrored,
    drains.plain, batch, drains, law, lazily⟩

/-- A cancel event that is set by the first run. -/
def setByRun : Action Nat Bool := do return decide (0 < (← Action.world))

/-- A stream that is cancelled after its first piece, and has delivered what its fault reports. -/
theorem brief_streams :
    ∃ pieces ids after requests,
      (brief.generateDetailed (.ofString "p") (.integer 3) setByRun).perform ⟨0, ⟨40, []⟩⟩ =
        (.error (.cancelled (.cancelled 1) "a" 1), after) ∧
      brief.Drains setByRun (.fresh (.ofString "p") (.integer 3)) ⟨0, ⟨40, []⟩⟩ pieces
        (.error (.cancelled (.cancelled 1) "a" 1) : Except Fault Generated) after ∧
      StreamLaw requests pieces ids (.error (.cancelled (.cancelled 1) "a" 1)) ∧
      String.join pieces = "a" := by
  have whole : brief.budget (.integer 3) = .whole 3 := rfl
  have sure : setByRun.Ends (fun _ => True) fun _ => False := fun _ => trivial
  obtain ⟨pieces, ids, outcome, after, requests, batch, drains, recorded, -, law, -⟩ :=
    brief.stream_agrees (.ofString "p") (.integer 3) whole sure ⟨0, ⟨40, []⟩⟩
  have stopped : (brief.generateDetailed (.ofString "p") (.integer 3) setByRun).perform
      ⟨0, ⟨40, []⟩⟩ = (.error (.cancelled (.cancelled 1) "a" 1), ⟨1, ⟨40, []⟩⟩) := rfl
  obtain ⟨rfl, rfl⟩ := Prod.mk.inj (stopped.symm.trans batch)
  have unanswered : (.cancelled (.cancelled 1) "a" 1 : Fault) ∉ faultsRaised requests := by
    have none : [] = faultsRaised requests :=
      congrArg (fun ended : Except Fault Generated × Scene (Recorded GenerationRequest Nat) =>
        faultsRaised ended.2.world.requests) recorded
    rw [← none]
    exact List.not_mem_nil
  have reported := law.report_eq _ "a" 1 rfl unanswered rfl
  exact ⟨pieces, ids, _, requests, stopped, drains, law, reported.1.symm⟩

/-- The small generator with a graph whose second run fails with the fault of a stopped decoding. -/
def impostor : Generator Nat :=
  { brief with graph := ⟨fun feed outputs => do
      if (← Action.world) = 1 then throw (.cancelled (.stated "m") "" 0)
      brief.graph.run feed outputs⟩ }

/-- What such a fault of a graph reports is not what the pieces add up to. -/
theorem impostor_reports :
    ¬ ∀ pieces fault text steps after,
      impostor.Drains (pure false) (.fresh (.ofString "p") (.integer 3)) ⟨0, ⟨40, []⟩⟩ pieces
          (.error fault : Except Fault Generated) after →
        fault.partial? = some (text, steps) → text = String.join pieces := by
  intro claimed
  have drains : impostor.Drains (pure false) (.fresh (.ofString "p") (.integer 3)) ⟨0, ⟨40, []⟩⟩
      ["a"] (.error (.cancelled (.stated "m") "" 0) : Except Fault Generated) ⟨1, ⟨40, []⟩⟩ :=
    ⟨_, _, .more .none rfl, rfl⟩
  have same := claimed _ _ _ _ _ drains rfl
  revert same
  decide

end RecallChat.Generator
