import RecallChat.Proofs.Recording
import RecallChat.Rehearsal.Graph

/-!
# What a generator asks of its components

A generator asks its tokenizer for token ids, for the end token and for the text of a token, its
graph for runs, and its clock for readings.  `Generator.recorded` writes all of it down.  A recorded
generator gives the same results as the plain one and leaves the same world
(`generateDetailed_mirrors`), so what it writes down is what the plain one asks.
-/

set_option autoImplicit false

namespace RecallChat

/-- What a generator asks of a component, with the answer. -/
inductive GenerationRequest where
  | encoding (text : Value) (answer : Except Fault (List Int))
  | ending (answer : Except Fault Int)
  | run (feed : NamedTensors) (outputs : List String) (answer : Except Fault NamedTensors)
  | decoding (ids : List Int) (answer : Except Fault String)
  | reading (answer : Except Fault Number)

/-- One run of a graph: what it was given, what it was asked for, and what it answered. -/
structure GraphRun where
  feed : NamedTensors
  outputs : List String
  answer : Except Fault NamedTensors

namespace GenerationRequest

/-- The run of the graph that a request is. -/
def run? : GenerationRequest → Option GraphRun
  | run feed outputs answer => some ⟨feed, outputs, answer⟩
  | _ => none

/-- The token ids of which a request asks the text, with the answer. -/
def decoding? : GenerationRequest → Option (List Int × Except Fault String)
  | decoding ids answer => some (ids, answer)
  | _ => none

end GenerationRequest

/-- The runs of the graph among requests. -/
def graphRuns (requests : List GenerationRequest) : List GraphRun :=
  requests.filterMap GenerationRequest.run?

/-- The token ids whose text was asked for among requests, with the answers. -/
def decodings (requests : List GenerationRequest) : List (List Int × Except Fault String) :=
  requests.filterMap GenerationRequest.decoding?

theorem graphRuns_append (earlier later : List GenerationRequest) :
    graphRuns (earlier ++ later) = graphRuns earlier ++ graphRuns later :=
  List.filterMap_append

theorem decodings_append (earlier later : List GenerationRequest) :
    decodings (earlier ++ later) = decodings earlier ++ decodings later :=
  List.filterMap_append

namespace Generator

variable {σ : Type}

/-- The generator with everything it asks of its components written down. -/
def recorded (generator : Generator σ) : Generator (Recorded GenerationRequest σ) where
  graph := ⟨fun feed outputs => (generator.graph.run feed outputs).recorded (.run feed outputs)⟩
  tokenizer :=
    { encode := fun text => (generator.tokenizer.encode text).recorded (.encoding text)
      decode := fun ids => (generator.tokenizer.decode ids).recorded (.decoding ids)
      endId := generator.tokenizer.endId.recorded .ending }
  clock := generator.clock.recorded .reading
  settings := generator.settings

/-! ## Recording changes nothing -/

section Mirroring

open RecallChat.Action (Mirrors)

variable (generator : Generator σ)

/-- A decoding with a bound on its seconds reads the clock once before it starts. -/
theorem deadline_of_ne_null (bounded : generator.settings.maxSeconds ≠ .null) :
    generator.deadline = generator.clock >>= fun now => Action.ofExcept
      (match generator.settings.maxSeconds.number? with
      | none => .error (.wrongType
          ("no number of seconds can be of kind " ++ generator.settings.maxSeconds.kindName))
      | some seconds =>
        match now.add? seconds with
        | some moment => .ok (some moment)
        | none => .error (.tooLarge "number of seconds too large")) := by
  unfold deadline
  split
  · contradiction
  · refine congrArg _ (funext fun now => ?_)
    cases generator.settings.maxSeconds.number? with
    | none => rfl
    | some seconds =>
        dsimp only
        cases now.add? seconds <;> rfl

theorem deadline_of_null (unbounded : generator.settings.maxSeconds = .null) :
    generator.deadline = pure none := by
  rw [deadline, unbounded]

theorem deadline_mirrors :
    Mirrors Recorded.inner generator.recorded.deadline generator.deadline := by
  by_cases unbounded : generator.settings.maxSeconds = .null
  · rw [deadline_of_null generator unbounded, deadline_of_null generator.recorded unbounded]
    exact .pure none
  · rw [deadline_of_ne_null generator unbounded, deadline_of_ne_null generator.recorded unbounded]
    exact .bind (.recorded _ _) fun _ => .ofExcept _

theorem start_mirrors (prompt : Text.CodePoints) (maxTokens : Value) :
    Mirrors Recorded.inner (generator.recorded.start prompt maxTokens)
      (generator.start prompt maxTokens) :=
  .bind (deadline_mirrors generator) fun _ => .bind (.recorded _ _) fun _ =>
    .ite _ (.bind (.throw _) fun _ => .bind (.recorded _ _) fun _ => .pure _)
      (.bind (.recorded _ _) fun _ => .pure _)

theorem nextToken_mirrors (tokens : List Int) :
    Mirrors Recorded.inner (generator.recorded.nextToken tokens) (generator.nextToken tokens) :=
  .bind (.ofExcept _) fun _ => .bind (.recorded _ _) fun _ => .bind (.ofExcept _) fun _ => .pure _

theorem checkStop_mirrors {outer : Action (Recorded GenerationRequest σ) Bool}
    {inner : Action σ Bool} (same : Mirrors Recorded.inner outer inner) (decoding : Decoding) :
    Mirrors Recorded.inner (generator.recorded.checkStop outer decoding)
      (generator.checkStop inner decoding) := by
  unfold checkStop
  cases decoding.deadline with
  | none => exact .bind same fun _ => .ite _ (.bind (.throw _) fun _ => .pure ()) (.pure ())
  | some moment =>
      have late (now : Number) : Mirrors Recorded.inner
          (if moment.less now then throw (.timedOut
            (.exceeded generator.settings.maxSeconds.display decoding.steps) decoding.text
            decoding.steps) else pure () : Action (Recorded GenerationRequest σ) Unit)
          (if moment.less now then throw (.timedOut
            (.exceeded generator.settings.maxSeconds.display decoding.steps) decoding.text
            decoding.steps) else pure ()) := .ite _ (.throw _) (.pure ())
      exact .bind same fun _ => .ite _ (.bind (.throw _) fun _ => .bind (.recorded _ _) late)
        (.bind (.recorded _ _) late)

theorem finish_mirrors (decoding : Decoding) (reason : StopReason) :
    Mirrors (Recorded.inner : Recorded GenerationRequest σ → σ) (finish decoding reason)
      (finish decoding reason) :=
  .bind (.log _ _ _) fun _ => .pure _

theorem advance_mirrors {outer : Action (Recorded GenerationRequest σ) Bool}
    {inner : Action σ Bool} (same : Mirrors Recorded.inner outer inner) (decoding : Decoding) :
    Mirrors Recorded.inner (generator.recorded.advance outer decoding)
      (generator.advance inner decoding) :=
  .ite _ (finish_mirrors _ _) <| .bind (.ofExcept _) fun _ => .ite _ (finish_mirrors _ _) <|
    .bind (checkStop_mirrors generator same decoding) fun _ =>
      .bind (nextToken_mirrors generator _) fun _ => .ite _ (finish_mirrors _ _) <|
        .bind (.recorded _ _) fun _ => .pure _

theorem drain_mirrors {outer : Action (Recorded GenerationRequest σ) Bool}
    {inner : Action σ Bool} (same : Mirrors Recorded.inner outer inner) (fuel : Nat)
    (decoding : Decoding) (pieces : List String) :
    Mirrors Recorded.inner (generator.recorded.drain outer fuel decoding pieces)
      (generator.drain inner fuel decoding pieces) := by
  induction fuel generalizing decoding pieces with
  | zero => exact .pure _
  | succ fuel ih =>
      refine .bind (advance_mirrors generator same decoding) fun progress => ?_
      cases progress with
      | piece text next => exact ih next (pieces ++ [text])
      | done result => exact .pure _

theorem generateDetailed_mirrors (prompt : Text.CodePoints) (maxTokens : Value)
    {outer : Action (Recorded GenerationRequest σ) Bool} {inner : Action σ Bool}
    (same : Mirrors Recorded.inner outer inner) :
    Mirrors Recorded.inner (generator.recorded.generateDetailed prompt maxTokens outer)
      (generator.generateDetailed prompt maxTokens inner) :=
  .map _ <| .bind (start_mirrors generator prompt maxTokens) fun _ =>
    drain_mirrors generator same _ _ _

end Mirroring

/-! ## A small generator -/

/-- A generator over a count of runs: its first run chooses the token of `a` and its second run the
end token. -/
def brief : Generator Nat where
  graph := ⟨fun feed _ => do
    let earlier ← Action.world
    Action.setWorld (earlier + 1)
    let ids := ((named? feed "input_ids").map fun input => input.elements.toIntegers.toList).getD []
    let graph : Rehearsal.ScriptedGraph := ⟨.tokens [1, 0] 2, "logits", .single, none, none⟩
    Action.ofExcept (graph.answer (earlier + 1) ids)⟩
  tokenizer := ⟨fun _ => pure [7], fun _ => pure "a", pure 0⟩
  clock := pure (.integer 0)
  settings := { GenerationSettings.standard with stopOnNewline := .boolean false }

end Generator

end RecallChat
