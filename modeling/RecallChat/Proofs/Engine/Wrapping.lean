import RecallChat.Proofs.Engine.Contract
import RecallChat.Proofs.Engine.Gate
import RecallChat.Proofs.Tokenizer.Faults

/-!
# Faults of wrapped libraries

A token library and a backend may fail in any way.  The adapter of the one and the session of the
other turn every fault into one of the library's own, and refuse what does not fit with one
(`TokenizerAdapter.Reliable.contained`, `InferenceSession.graph_contained`).

They rely on little: the ids that a token library gives are integers of sixty-four bits, its
vocabulary and its own end id can be read, and a backend's results are arrays of numbers.
-/

set_option autoImplicit false

namespace RecallChat

open RecallChat.Action

variable {σ τ : Type}

/-! ## Tokenizers -/

/-- That a tokenizer gives ids of sixty-four bits, and ends with the library's own faults only. -/
structure Tokenizer.Contained (tokenizer : Tokenizer σ) : Prop where
  encode : ∀ text,
    (tokenizer.encode text).Ends (fun ids => ∀ id ∈ ids, fitsWord id = true) Fault.Own
  decode : ∀ ids, (∀ id ∈ ids, fitsWord id = true) →
    (tokenizer.decode ids).Ends (fun _ => True) Fault.Own
  endId : tokenizer.endId.Ends (fun _ => True) Fault.Own

theorem Tokenizer.Contained.within {tokenizer : Tokenizer τ} (contained : tokenizer.Contained)
    (part : σ → τ) (put : τ → σ → σ) : (tokenizer.within part put).Contained where
  encode text := (contained.encode text).within part put
  decode ids fit := (contained.decode ids fit).within part put
  endId := contained.endId.within part put

namespace TokenizerAdapter

/-- What an adapter relies on: the wrapped tokenizer gives ids of sixty-four bits if it gives any,
and its vocabulary and its own end id, an integer or none, can be read. -/
structure Reliable (adapter : TokenizerAdapter σ) : Prop where
  ids_fit : ∀ text, (adapter.wrapped.encode text).Ends
    (fun ids => ∀ id ∈ ids, fitsWord id = true) fun _ => True
  vocabulary : adapter.wrapped.vocabulary.Ends (fun _ => True) fun _ => False
  ownEnd : adapter.wrapped.ownEnd.Ends
    (fun own => own = none ∨ own = some .null ∨ ∃ id, own = some (.integer id)) fun _ => False
  endToken : adapter.endToken.isHashable = true

variable {adapter : TokenizerAdapter σ}

theorem encode_ends (reliable : adapter.Reliable) (text : Value) :
    (adapter.encode text).Ends (fun ids => ∀ id ∈ ids, fitsWord id = true) Fault.Own := by
  unfold encode
  cases text.points? with
  | none => exact .throw rfl
  | some points =>
      refine (reliable.ids_fit points).attempt.bind fun outcome ended => ?_
      cases outcome with
      | error fault => exact .throw rfl
      | ok ids => exact .pure ended

/-- Ids of sixty-four bits can be quoted, so a fault of the wrapped tokenizer is told with them. -/
theorem decode_ends (adapter : TokenizerAdapter σ) {ids : List Int}
    (fit : ∀ id ∈ ids, fitsWord id = true) :
    (adapter.decode ids).Ends (fun _ => True) Fault.Own := by
  unfold decode decodeItems
  refine (Ends.anyhow _).attempt.bind fun outcome _ => ?_
  cases outcome with
  | error fault =>
      dsimp only
      rw [← List.map_take, Value.inQuotes_words fun id member => fit id (List.mem_of_mem_take member)]
      exact .throw rfl
  | ok text => exact .pure trivial

theorem configuredEnd?_ends (reliable : adapter.Reliable) (vocabulary : List (String × Int)) :
    Outcome.Ends (fun _ => True) Fault.Own (adapter.configuredEnd? vocabulary) := by
  rw [configuredEnd?_eq, if_pos reliable.endToken]
  exact trivial

theorem findEnd_ends (reliable : adapter.Reliable) :
    adapter.findEnd.Ends (fun _ => True) Fault.Own := by
  unfold findEnd
  refine reliable.vocabulary.of_sure.bind fun vocabulary _ => ?_
  refine (Ends.ofExcept (configuredEnd?_ends reliable vocabulary)).bind fun configured _ => ?_
  cases configured with
  | some id => exact .pure trivial
  | none =>
      refine reliable.ownEnd.of_sure.bind fun own is => ?_
      rcases is with rfl | rfl | ⟨id, rfl⟩
      case inr.inr => exact .ofExcept trivial
      -- no end id of its own, whether it is missing or null
      all_goals
        dsimp only
        cases commonEnds.findSome? (idOf? vocabulary) with
        | some id => exact .pure trivial
        | none => exact (Ends.log _ _ _).bind fun _ _ => .pure trivial

theorem endId_ends (reliable : adapter.Reliable) :
    adapter.endId.Ends (fun _ => True) Fault.Own := by
  refine Ends.world.bind fun world _ => ?_
  cases world.endId with
  | some id => exact .pure trivial
  | none =>
      refine ((findEnd_ends reliable).within _ _).bind fun id _ => ?_
      exact (Ends.change _).bind fun _ _ => .pure trivial

theorem Reliable.contained (reliable : adapter.Reliable) : adapter.tokenizer.Contained where
  encode text := (encode_ends reliable text).within _ _
  decode _ fit := (decode_ends adapter fit).within _ _
  endId := endId_ends reliable

end TokenizerAdapter

/-! ## Graphs -/

/-- That a graph gives arrays of numbers, and ends with the library's own faults only. -/
def Graph.Contained (graph : Graph σ) : Prop :=
  ∀ feed requested, (graph.run feed requested).Ends
    (fun outputs => ∀ output ∈ outputs, output.2.Proper) Fault.Own

/-- That a backend gives arrays of numbers if it gives anything. -/
def BackendSession.GivesArrays (backend : BackendSession σ) : Prop :=
  ∀ requested feed, (backend.run requested feed).Ends
    (fun results => ∀ tensor ∈ results, tensor.Proper) fun _ => True

section Names

variable {α : Type} {entries : List (String × α)} {entry : String × α}

theorem mem_setNamed {name : String} {value : α} (member : entry ∈ setNamed entries name value) :
    entry ∈ entries ∨ entry = (name, value) := by
  unfold setNamed at member
  split at member
  · obtain ⟨old, kept, replaced⟩ := List.mem_map.mp member
    split at replaced
    · exact .inr replaced.symm
    · exact .inl (replaced ▸ kept)
  · exact (List.mem_append.mp member).imp_right List.mem_singleton.mp

/-- Making names distinct adds no entry. -/
theorem mem_distinctNames (member : entry ∈ distinctNames entries) : entry ∈ entries := by
  -- by induction on the entries still to come, for any that are kept already
  have among : ∀ (kept more : List (String × α)),
      entry ∈ more.foldl (fun kept entry => setNamed kept entry.1 entry.2) kept →
        entry ∈ kept ∨ entry ∈ more := by
    intro kept more
    induction more generalizing kept with
    | nil => exact .inl
    | cons next rest ih =>
        intro member
        rcases ih _ member with earlier | later
        · rcases mem_setNamed earlier with old | rfl
          · exact .inl old
          · exact .inr List.mem_cons_self
        · exact .inr (List.mem_cons_of_mem next later)
  exact (among [] entries member).resolve_left List.not_mem_nil

end Names

namespace InferenceSession

variable {session : InferenceSession σ}

/-- The checks of a call end with the library's own faults only. -/
theorem checks_end (session : InferenceSession σ) (feed : NamedTensors)
    (outputs : Option (List String)) :
    Outcome.Ends (fun _ => True) Fault.Own (do
      session.checkInputs (feed.map Prod.fst) fun name => .ok (shapeIn feed name)
      session.requestedOutputs outputs) := by
  rcases checks_decide feed outputs with ⟨_, passed⟩ | ⟨_, cause, failed⟩
  · rw [passed]
    trivial
  · rw [failed]
    rfl

/-- A backend's results are named, and its faults are turned into one of the library's own. -/
theorem execute_ends (arrays : session.backend.GivesArrays) (feed : NamedTensors)
    (requested : List String) :
    (session.execute feed requested).Ends (fun outputs => ∀ output ∈ outputs, output.2.Proper)
      Fault.Own := by
  refine (arrays requested feed).attempt.bind fun outcome ended => ?_
  cases outcome with
  | error fault => exact .throw rfl
  | ok results =>
      refine .pure fun output member => ?_
      exact ended output.2 (List.of_mem_zip (mem_distinctNames member)).2

/-- **A session ends with the library's own faults only, whatever its backend does.** -/
theorem graph_contained (arrays : session.backend.GivesArrays) : session.graph.Contained := by
  intro feed requested
  change (session.run feed (some requested)).Ends _ _
  rw [run_eq]
  refine (Ends.ofExcept (session.checks_end feed (some requested))).bind fun _ _ => ?_
  exact execute_ends arrays feed _

end InferenceSession

end RecallChat
