import RecallChat.Proofs.Decoding.Law
import RecallChat.Proofs.Embedding.Pooling

/-!
# Batches of embeddings

An embedder asks its tokenizer for the ids of a text and its graph for one run on them.
`Embedder.recorded` writes both down; a recorded embedder gives what the plain one gives
(`Embedder.run_mirrors`).

A text is embedded by one encoding and one run (`Embedded`), or it fails in one of five ways, three
of them before the graph is run (`EmbeddingFails`).  A batch embeds its texts in order up to the
first that fails (`Batch.Lawful`), and over any batches the dimension that is remembered is that of
the last vector made (`Embedder.run_embeds`).
-/

set_option autoImplicit false

namespace RecallChat

open RecallChat.Action

variable {σ : Type}

/-! ## Inputs and outputs -/

/-- Ids can be given to a graph just when they all fit in sixty-four bits. -/
theorem tokenInputs_cases (ids : List Int) :
    (∀ id ∈ ids, fitsWord id = true) ∧ tokenInputs ids = .ok (submission ids) ∨
      (∃ id ∈ ids, fitsWord id = false) ∧
        tokenInputs ids = .error (.tooLarge "integer too large for sixty-four bits") := by
  cases words : ids.mapM wordOfInt with
  | ok numbers =>
      have given : tokenInputs ids = .ok (inputsOfWords numbers.toArray) := by
        rw [tokenInputs, words]
        rfl
      refine .inl ⟨fun id member => ?_, given.trans (congrArg _ (tokenInputs_eq_ok given))⟩
      obtain ⟨word, made⟩ := Outcome.exists_of_mapM_eq_ok words member
      rcases wordOfInt_cases id with ⟨fits, _⟩ | ⟨_, refused⟩
      · exact fits
      · cases made.symm.trans refused
  | error fault =>
      -- the first id that does not fit is the one that is told
      obtain ⟨before, id, rest, rfl, _, refused⟩ := Outcome.mapM_eq_error_iff.mp words
      have given : tokenInputs (before ++ id :: rest) = .error fault := by
        rw [tokenInputs, words]
        rfl
      rcases wordOfInt_cases id with ⟨_, made⟩ | ⟨large, same⟩
      · cases made.symm.trans refused
      · cases refused.symm.trans same
        exact .inr ⟨⟨id, by simp, large⟩, given⟩

/-- How outputs miss hidden states for a number of tokens. -/
inductive Misfits (outputs : NamedTensors) (name : String) (length : Nat) : InferenceCause → Prop
  | missing : named? outputs name = none →
      Misfits outputs name length
        (.missingOutput name ((outputs.map Prod.fst).mergeSort fun a b => decide (a ≤ b)))
  | shape {tensor : Tensor} : named? outputs name = some tensor →
      (¬ ∃ width, 0 < width ∧ tensor.shape = [1, length, width]) →
      Misfits outputs name length
        (.outputShape name (shapeText tensor.shape) (toString (length : Int)))

theorem requireOutput_cases (outputs : NamedTensors) (name : String) (length : Nat) :
    (∃ tensor width, named? outputs name = some tensor ∧ tensor.shape = [1, length, width] ∧
        0 < width ∧ requireOutput outputs name length =
          .ok (.ofSingles tensor.shape tensor.elements.toSingles)) ∨
      ∃ cause, Misfits outputs name length cause ∧
        requireOutput outputs name length = .error (.inference cause) := by
  unfold requireOutput
  cases found : outputs.find? fun output => output.1 == name with
  | none => exact .inr ⟨_, .missing (congrArg (Option.map Prod.snd) found), rfl⟩
  | some output =>
      obtain ⟨given, tensor⟩ := output
      have named : named? outputs name = some tensor := congrArg (Option.map Prod.snd) found
      dsimp only
      split
      case h_1 batch positions width shape_eq =>
        split
        case isTrue right =>
          obtain ⟨rfl, positions_eq, positive⟩ := right
          obtain rfl := Int.ofNat_inj.mp positions_eq
          exact .inl ⟨tensor, width, named, shape_eq, Nat.pos_of_ne_zero positive, rfl⟩
        case isFalse wrong =>
          refine .inr ⟨_, .shape named ?_, rfl⟩
          rintro ⟨width', positive, shape_eq'⟩
          rw [shape_eq] at shape_eq'
          cases shape_eq'
          exact wrong ⟨rfl, rfl, positive.ne'⟩
      case h_2 other =>
        refine .inr ⟨_, .shape named ?_, rfl⟩
        rintro ⟨width, _, shape_eq⟩
        exact other _ _ _ shape_eq

/-! ## What an embedder asks of its components -/

/-- What an embedder asks of a component, with the answer. -/
inductive EmbeddingRequest where
  | encoding (text : Value) (answer : Except Fault (List Int))
  | run (feed : NamedTensors) (outputs : List String) (answer : Except Fault NamedTensors)

/-- That a graph gives arrays of numbers if it gives anything. -/
def Graph.GivesArrays (graph : Graph σ) : Prop :=
  ∀ feed requested, (graph.run feed requested).Ends
    (fun outputs => ∀ output ∈ outputs, output.2.Proper) fun _ => True

/-- A text that was embedded: its ids, what the graph gave for them, and the hidden states there. -/
structure Embedded where
  text : Value
  ids : List Int
  outputs : NamedTensors
  hidden : Tensor
  width : Nat

namespace Embedded

/-- What was asked for a text that was embedded: one encoding, and one run on all ids. -/
def requests (embedded : Embedded) : List EmbeddingRequest :=
  [.encoding embedded.text (.ok embedded.ids),
    .run (submission embedded.ids) ["last_hidden_state"] (.ok embedded.outputs)]

/-- The vector of a text that was embedded: the means of the columns of its hidden states. -/
def vector (embedded : Embedded) : Vector32 :=
  (List.range embedded.width).map fun index =>
    columnMean (embedded.hidden.column embedded.ids.length embedded.width index)

theorem length_vector (embedded : Embedded) : embedded.vector.length = embedded.width := by
  rw [vector, List.length_map, List.length_range]

/-- That a text was embedded as it should be. -/
structure Sound (embedded : Embedded) : Prop where
  nonempty : embedded.ids ≠ []
  fit : ∀ id ∈ embedded.ids, fitsWord id = true
  given : named? embedded.outputs "last_hidden_state" = some embedded.hidden
  shape_eq : embedded.hidden.shape = [1, embedded.ids.length, embedded.width]
  positive : 0 < embedded.width

end Embedded

/-- How a text fails to be embedded, and what was asked for it.  The graph is run in the last two
cases only. -/
inductive EmbeddingFails (text : Value) : List EmbeddingRequest → Fault → Prop
  | unencoded (fault : Fault) : EmbeddingFails text [.encoding text (.error fault)] fault
  | empty : EmbeddingFails text [.encoding text (.ok [])] (.tokenization .emptyText)
  | large {ids : List Int} : (∃ id ∈ ids, fitsWord id = false) →
      EmbeddingFails text [.encoding text (.ok ids)]
        (.tooLarge "integer too large for sixty-four bits")
  | run {ids : List Int} (fault : Fault) : ids ≠ [] → (∀ id ∈ ids, fitsWord id = true) →
      EmbeddingFails text [.encoding text (.ok ids),
        .run (submission ids) ["last_hidden_state"] (.error fault)] fault
  | output {ids : List Int} {outputs : NamedTensors} {cause : InferenceCause} : ids ≠ [] →
      (∀ id ∈ ids, fitsWord id = true) → Misfits outputs "last_hidden_state" ids.length cause →
      EmbeddingFails text [.encoding text (.ok ids),
        .run (submission ids) ["last_hidden_state"] (.ok outputs)] (.inference cause)

/-- How a text is embedded, or fails to be. -/
inductive Embeds (text : Value) : List EmbeddingRequest → Except Fault Vector32 → Prop
  | vector {embedded : Embedded} : embedded.Sound → embedded.text = text →
      Embeds text embedded.requests (.ok embedded.vector)
  | fault {requests : List EmbeddingRequest} {fault : Fault} : EmbeddingFails text requests fault →
      Embeds text requests (.error fault)

namespace Embedder

variable {embedder : Embedder σ}

/-- The embedder with all it asks of its components written down. -/
def recorded (embedder : Embedder σ) : Embedder (Recorded EmbeddingRequest σ) where
  graph := ⟨fun feed outputs => (embedder.graph.run feed outputs).recorded (.run feed outputs)⟩
  tokenizer :=
    { embedder.tokenizer.within Recorded.inner fun inner world => { world with inner := inner } with
      encode := fun text => (embedder.tokenizer.encode text).recorded (.encoding text) }

/-- Hidden states that were accepted have the means of their columns as their mean. -/
theorem vector_of_sound {embedded : Embedded} (sound : embedded.Sound)
    (proper : embedded.hidden.Proper) :
    meanPool (.ofSingles embedded.hidden.shape embedded.hidden.elements.toSingles)
      embedded.ids.length = embedded.vector :=
  (proper.fits sound.shape_eq sound.positive.ne').meanPool_eq
    (List.length_pos_iff.mpr sound.nonempty)

/-- The vector of one run on ids. -/
def vectorOfRun (embedder : Embedder σ) (ids : List Int) : Action σ Vector32 := do
  let outputs ← embedder.graph.run (← Action.ofExcept (tokenInputs ids)) ["last_hidden_state"]
  let hidden ← Action.ofExcept (requireOutput outputs "last_hidden_state" ids.length)
  return meanPool hidden ids.length

/-- The vector of a text whose ids are known. -/
def vectorOfIds (embedder : Embedder σ) (ids : List Int) : Action σ Vector32 := do
  if ids.isEmpty then throw (.tokenization .emptyText)
  embedder.vectorOfRun ids

theorem vectorOf_eq (embedder : Embedder σ) (text : Value) :
    embedder.vectorOf text = embedder.tokenizer.encode text >>= embedder.vectorOfIds := rfl

/-- Ids are embedded with one run at most. -/
theorem perform_vectorOfIds (arrays : embedder.graph.GivesArrays) (text : Value) (ids : List Int)
    (scene : Scene (Recorded EmbeddingRequest σ)) :
    ∃ requests outcome inner journal, Embeds text (.encoding text (.ok ids) :: requests) outcome ∧
      (embedder.recorded.vectorOfIds ids).perform scene =
        (outcome, ⟨⟨inner, scene.world.requests ++ requests⟩, journal⟩) := by
  obtain ⟨⟨inner, requests⟩, journal⟩ := scene
  unfold vectorOfIds vectorOfRun
  -- without ids, and with ids that are too large, nothing is asked of the graph
  by_cases empty : ids = []
  · subst empty
    refine ⟨[], _, inner, journal, .fault .empty, ?_⟩
    rw [List.append_nil]
    rfl
  rw [if_neg (mt List.isEmpty_iff.mp empty)]
  rcases tokenInputs_cases ids with ⟨fit, inputs⟩ | ⟨large, refused⟩
  case inr =>
    refine ⟨[], _, inner, journal, .fault (.large large), ?_⟩
    rw [refused, List.append_nil]
    exact perform_bind_of_error (perform_ofExcept _ _)
  rw [inputs, perform_bind_of_ok (perform_ofExcept _ _)]
  rcases ran : (embedder.graph.run (submission ids) ["last_hidden_state"]).perform
    ⟨inner, journal⟩ with ⟨answer, later⟩
  have noted : (embedder.recorded.graph.run (submission ids) ["last_hidden_state"]).perform
      ⟨⟨inner, requests⟩, journal⟩ = _ := perform_recorded_of requests ran
  cases answer with
  | error fault => exact ⟨_, _, _, _, .fault (.run fault empty fit), perform_bind_of_error noted⟩
  | ok outputs =>
      rw [perform_bind_of_ok noted]
      rcases requireOutput_cases outputs "last_hidden_state" ids.length with
        ⟨hidden, width, given, shape_eq, positive, required⟩ | ⟨cause, misfits, refused⟩
      · have sound : Embedded.Sound ⟨text, ids, outputs, hidden, width⟩ :=
          ⟨empty, fit, given, shape_eq, positive⟩
        obtain ⟨entry, found, rfl⟩ := Option.map_eq_some_iff.mp given
        have proper := (arrays _ _).of_ok ran entry (List.mem_of_find?_eq_some found)
        rw [required, perform_bind_of_ok (perform_ofExcept _ _), vector_of_sound sound proper]
        exact ⟨_, _, _, _, .vector sound rfl, rfl⟩
      · rw [refused]
        exact ⟨_, _, _, _, .fault (.output empty fit misfits),
          perform_bind_of_error (perform_ofExcept _ _)⟩

/-- A text is embedded with one encoding and one run at most. -/
theorem perform_vectorOf (arrays : embedder.graph.GivesArrays) (text : Value)
    (scene : Scene (Recorded EmbeddingRequest σ)) :
    ∃ requests outcome inner journal, Embeds text requests outcome ∧
      (embedder.recorded.vectorOf text).perform scene =
        (outcome, ⟨⟨inner, scene.world.requests ++ requests⟩, journal⟩) := by
  obtain ⟨⟨inner, requests⟩, journal⟩ := scene
  rcases encoded : (embedder.tokenizer.encode text).perform ⟨inner, journal⟩ with ⟨answer, after⟩
  have noted : (embedder.recorded.tokenizer.encode text).perform ⟨⟨inner, requests⟩, journal⟩ = _ :=
    perform_recorded_of requests encoded
  rw [vectorOf_eq]
  cases answer with
  | error fault => exact ⟨_, _, _, _, .fault (.unencoded fault), perform_bind_of_error noted⟩
  | ok ids =>
      obtain ⟨more, outcome, last, later, embeds, performed⟩ :=
        perform_vectorOfIds arrays text ids _
      refine ⟨_, _, last, later, embeds, (perform_bind_of_ok noted).trans (performed.trans ?_)⟩
      rw [List.append_assoc]
      rfl

/-- The vector of a text is remembered by its length. -/
theorem perform_embed (arrays : embedder.graph.GivesArrays) (text : Value)
    (scene : Scene (Measured (Recorded EmbeddingRequest σ))) :
    ∃ requests outcome inner journal, Embeds text requests outcome ∧
      (embedder.recorded.embed text).perform scene =
        (outcome, ⟨⟨⟨inner, scene.world.inner.requests ++ requests⟩,
          (outcome.toOption.map List.length).or scene.world.dimension⟩, journal⟩) := by
  obtain ⟨requests, outcome, inner, journal, embeds, performed⟩ :=
    perform_vectorOf arrays text ⟨scene.world.inner, scene.journal⟩
  refine ⟨requests, outcome, inner, journal, embeds, ?_⟩
  rw [embed, perform_bind, perform_within, performed]
  cases outcome with
  | error fault => rfl
  | ok vector => rfl

end Embedder

/-! ## Batches -/

/-- A batch that was asked for: its texts, those that were embedded, what was asked for the text
that stopped it, if one did, and how it ended. -/
structure Batch where
  texts : List Value
  done : List Embedded
  last : List EmbeddingRequest
  outcome : Except Fault (List Vector32)

namespace Batch

/-- All that was asked in a batch. -/
def requests (batch : Batch) : List EmbeddingRequest :=
  batch.done.flatMap Embedded.requests ++ batch.last

/-- That a batch embeds its texts in order, all of them or those before the first that fails. -/
structure Lawful (batch : Batch) : Prop where
  sound : ∀ embedded ∈ batch.done, embedded.Sound
  ends : (batch.texts = batch.done.map Embedded.text ∧ batch.last = [] ∧
      batch.outcome = .ok (batch.done.map Embedded.vector)) ∨
    ∃ text rest fault, batch.texts = batch.done.map Embedded.text ++ text :: rest ∧
      EmbeddingFails text batch.last fault ∧ batch.outcome = .error fault

/-- A batch with one more text in front that was embedded. -/
def cons (embedded : Embedded) (batch : Batch) : Batch :=
  ⟨embedded.text :: batch.texts, embedded :: batch.done, batch.last,
    batch.outcome.map (embedded.vector :: ·)⟩

theorem requests_cons (embedded : Embedded) (batch : Batch) :
    (batch.cons embedded).requests = embedded.requests ++ batch.requests := by
  unfold requests cons
  rw [List.flatMap_cons, List.append_assoc]

theorem Lawful.cons {batch : Batch} (lawful : batch.Lawful) {embedded : Embedded}
    (sound : embedded.Sound) : (batch.cons embedded).Lawful where
  sound := List.forall_mem_cons.mpr ⟨sound, lawful.sound⟩
  ends := by
    unfold Batch.cons
    rcases lawful.ends with ⟨texts_eq, last_eq, made⟩ | ⟨text, rest, fault, texts_eq, fails, failed⟩
    · refine .inl ⟨congrArg (embedded.text :: ·) texts_eq, last_eq, ?_⟩
      rw [made]
      rfl
    · refine .inr ⟨text, rest, fault, congrArg (embedded.text :: ·) texts_eq, fails, ?_⟩
      rw [failed]
      rfl

end Batch

/-- The dimension that is remembered after some texts were embedded. -/
def dimensionAfter (before : Option Nat) (done : List Embedded) : Option Nat :=
  (done.getLast?.map fun embedded => embedded.vector.length).or before

theorem dimensionAfter_cons (before : Option Nat) (embedded : Embedded) (rest : List Embedded) :
    dimensionAfter before (embedded :: rest) =
      dimensionAfter (some embedded.vector.length) rest := by
  unfold dimensionAfter
  rw [List.getLast?_cons]
  cases rest.getLast? with
  | none => rfl
  | some last => rfl

theorem dimensionAfter_append (before : Option Nat) (first second : List Embedded) :
    dimensionAfter before (first ++ second) =
      dimensionAfter (dimensionAfter before first) second := by
  unfold dimensionAfter
  rw [List.getLast?_append]
  cases second.getLast? with
  | none => rfl
  | some last => rfl

namespace Embedder

variable {embedder : Embedder σ}

theorem embedAll_cons (embedder : Embedder σ) (text : Value) (rest : List Value) :
    embedder.embedAll (text :: rest) = do
      let vector ← embedder.embed text
      let vectors ← embedder.embedAll rest
      return vector :: vectors :=
  List.mapM_cons

/-- A batch goes through its texts in order. -/
theorem perform_embedAll (arrays : embedder.graph.GivesArrays) (texts : List Value)
    (scene : Scene (Measured (Recorded EmbeddingRequest σ))) :
    ∃ batch : Batch, batch.Lawful ∧ batch.texts = texts ∧ ∃ inner journal,
      (embedder.recorded.embedAll texts).perform scene =
        (batch.outcome, ⟨⟨⟨inner, scene.world.inner.requests ++ batch.requests⟩,
          dimensionAfter scene.world.dimension batch.done⟩, journal⟩) := by
  -- by induction on the texts, each of which starts where the one before it ended
  induction texts generalizing scene with
  | nil =>
      refine ⟨⟨[], [], [], .ok []⟩, ⟨nofun, .inl ⟨rfl, rfl, rfl⟩⟩, rfl,
        scene.world.inner.inner, scene.journal, ?_⟩
      rw [Batch.requests, List.flatMap_nil, List.append_nil, List.append_nil]
      rfl
  | cons text rest ih =>
      obtain ⟨requests, outcome, inner, journal, embeds, performed⟩ :=
        perform_embed arrays text scene
      rw [embedAll_cons]
      cases embeds with
      | fault fails =>
          exact ⟨⟨text :: rest, [], requests, _⟩, ⟨nofun, .inr ⟨text, rest, _, rfl, fails, rfl⟩⟩,
            rfl, inner, journal, perform_bind_of_error performed⟩
      | @vector embedded sound text_eq =>
          obtain ⟨batch, lawful, texts_eq, last, later, performed'⟩ := ih
            ⟨⟨⟨inner, scene.world.inner.requests ++ embedded.requests⟩,
              some embedded.vector.length⟩, journal⟩
          refine ⟨batch.cons embedded, lawful.cons sound, ?_, last, later, ?_⟩
          · rw [← text_eq, ← texts_eq]
            rfl
          · refine (perform_bind_of_ok performed).trans ?_
            have dimension_eq : dimensionAfter scene.world.dimension (batch.cons embedded).done =
                dimensionAfter (some embedded.vector.length) batch.done :=
              dimensionAfter_cons _ _ _
            rw [Batch.requests_cons, ← List.append_assoc, dimension_eq, Batch.cons]
            cases ended : batch.outcome with
            | error fault =>
                rw [ended] at performed'
                exact perform_bind_of_error performed'
            | ok vectors =>
                rw [ended] at performed'
                exact perform_bind_of_ok performed'

/-- Batches one after the other: how they end, and the scene after all of them. -/
def run (embedder : Embedder σ) : List (List Value) → Scene (Measured σ) →
    List (Except Fault (List Vector32)) × Scene (Measured σ)
  | [], scene => ([], scene)
  | texts :: rest, scene =>
    let (outcome, after) := (embedder.embedAll texts).perform scene
    let (others, last) := run embedder rest after
    (outcome :: others, last)

/-- Batches are embedded one after the other. -/
theorem perform_run (arrays : embedder.graph.GivesArrays) (texts : List (List Value))
    (scene : Scene (Measured (Recorded EmbeddingRequest σ))) :
    ∃ batches : List Batch, batches.map Batch.texts = texts ∧ (∀ batch ∈ batches, batch.Lawful) ∧
      ∃ inner journal, embedder.recorded.run texts scene =
        (batches.map Batch.outcome,
          ⟨⟨⟨inner, scene.world.inner.requests ++ batches.flatMap Batch.requests⟩,
            dimensionAfter scene.world.dimension (batches.flatMap Batch.done)⟩, journal⟩) := by
  induction texts generalizing scene with
  | nil =>
      refine ⟨[], rfl, nofun, scene.world.inner.inner, scene.journal, ?_⟩
      rw [List.flatMap_nil, List.append_nil]
      rfl
  | cons first rest ih =>
      obtain ⟨batch, lawful, texts_eq, inner, journal, performed⟩ :=
        perform_embedAll arrays first scene
      obtain ⟨batches, rest_eq, each, last, later, others⟩ := ih
        ⟨⟨⟨inner, scene.world.inner.requests ++ batch.requests⟩,
          dimensionAfter scene.world.dimension batch.done⟩, journal⟩
      refine ⟨batch :: batches, ?_, List.forall_mem_cons.mpr ⟨lawful, each⟩, last, later, ?_⟩
      · rw [List.map_cons, texts_eq, rest_eq]
      · rw [run, performed]
        dsimp only
        rw [others, List.flatMap_cons, List.flatMap_cons, dimensionAfter_append, List.append_assoc]
        rfl

/-! ## Recording changes nothing -/

/-- A world without what was written down in it. -/
def plain {ρ : Type} (world : Measured (Recorded ρ σ)) : Measured σ :=
  ⟨world.inner.inner, world.dimension⟩

theorem vectorOf_mirrors (embedder : Embedder σ) (text : Value) :
    Mirrors Recorded.inner (embedder.recorded.vectorOf text) (embedder.vectorOf text) := by
  refine .bind (.recorded _ _) fun ids => ?_
  have pooled : Mirrors Recorded.inner
      (embedder.recorded.vectorOfRun ids) (embedder.vectorOfRun ids) :=
    .bind (.ofExcept _) fun _ => .bind (.recorded _ _) fun _ => .bind (.ofExcept _) fun _ => .pure _
  exact .ite _ (.bind (.throw _) fun _ => pooled) pooled

/-- Mirroring is kept where the dimension stands beside the world. -/
theorem within_mirrors {ρ α : Type} {outer : Action (Recorded ρ σ) α} {inner : Action σ α}
    (mirrors : Mirrors Recorded.inner outer inner) :
    Mirrors plain (outer.within Measured.inner fun inner world => { world with inner := inner })
      (inner.within Measured.inner fun inner world => { world with inner := inner }) := by
  intro scene
  have same : inner.perform ⟨scene.world.inner.inner, scene.journal⟩ = _ :=
    mirrors ⟨scene.world.inner, scene.journal⟩
  rw [perform_within, perform_within]
  unfold sceneOf plain
  dsimp only
  rw [same]
  rfl

theorem embed_mirrors (embedder : Embedder σ) (text : Value) :
    Mirrors plain (embedder.recorded.embed text) (embedder.embed text) := by
  refine .bind (within_mirrors (vectorOf_mirrors embedder text)) fun vector => ?_
  refine .bind (.change ?_) fun _ => .pure vector
  exact fun _ => rfl

theorem embedAll_mirrors (embedder : Embedder σ) (texts : List Value) :
    Mirrors plain (embedder.recorded.embedAll texts) (embedder.embedAll texts) := by
  induction texts with
  | nil => exact .pure []
  | cons text rest ih =>
      rw [embedAll_cons, embedAll_cons]
      exact .bind (embed_mirrors embedder text) fun vector => .bind ih fun vectors => .pure _

/-- A recorded embedder gives what the plain one gives, and leaves the same world. -/
theorem run_mirrors (embedder : Embedder σ) (batches : List (List Value))
    (scene : Scene (Measured (Recorded EmbeddingRequest σ))) :
    embedder.run batches (sceneOf plain scene) =
      ((embedder.recorded.run batches scene).1,
        sceneOf plain (embedder.recorded.run batches scene).2) := by
  induction batches generalizing scene with
  | nil => rfl
  | cons texts rest ih =>
      unfold run
      rw [embedAll_mirrors embedder texts scene]
      dsimp only
      rw [ih]

/-! ## The law -/

/-- **One run for each text, in order.**  Whatever batches are embedded one after the other, each
goes through its texts as `Batch.Lawful` says, every vector has as many components as its hidden
states have columns, what is asked is what the batches ask, in their order, and the dimension is
that of the last vector made in any of them.  The plain embedder does the same. -/
theorem run_embeds (arrays : embedder.graph.GivesArrays) (texts : List (List Value))
    (scene : Scene (Measured (Recorded EmbeddingRequest σ))) :
    ∃ batches : List Batch, batches.map Batch.texts = texts ∧
      (∀ batch ∈ batches, batch.Lawful ∧ ∀ embedded ∈ batch.done,
        embedded.hidden.shape.getLast? = some embedded.vector.length) ∧
      (embedder.recorded.run texts scene).1 = batches.map Batch.outcome ∧
      (embedder.recorded.run texts scene).2.world.inner.requests =
        scene.world.inner.requests ++ batches.flatMap Batch.requests ∧
      (embedder.recorded.run texts scene).2.world.dimension =
        dimensionAfter scene.world.dimension (batches.flatMap Batch.done) ∧
      embedder.run texts (sceneOf plain scene) =
        ((embedder.recorded.run texts scene).1,
          sceneOf plain (embedder.recorded.run texts scene).2) := by
  obtain ⟨batches, texts_eq, each, inner, journal, performed⟩ := perform_run arrays texts scene
  refine ⟨batches, texts_eq, fun batch member => ⟨each batch member, fun embedded done => ?_⟩,
    congrArg Prod.fst performed, ?_, ?_, run_mirrors embedder texts scene⟩
  · rw [((each batch member).sound embedded done).shape_eq, Embedded.length_vector]
    rfl
  · rw [performed]
  · rw [performed]

/-! ## Two small embedders -/

/-- An embedder with one id for every text.  Its graph gives one row of hidden states at first, and
then always two. -/
def fickle : Embedder Bool where
  graph := ⟨fun _ _ => do
    let used ← Action.world
    Action.setWorld true
    return [("last_hidden_state",
      if used then .ofSingles [1, 2, 2] #[.ofInt _ 1, .ofInt _ 2, .ofInt _ 3, .ofInt _ 4]
      else .ofSingles [1, 1, 2] #[.ofInt _ 3, .ofInt _ 4])]⟩
  tokenizer := ⟨fun _ => pure [7], fun _ => pure "", pure 0⟩

theorem fickle_givesArrays : fickle.graph.GivesArrays := by
  refine fun _ _ => Ends.world.bind fun used _ => (Ends.anyhow _).bind fun _ _ => .pure ?_
  refine List.forall_mem_singleton.mpr ?_
  cases used with
  | true => exact ⟨rfl, by decide, nofun⟩
  | false => exact ⟨rfl, by decide, nofun⟩

/-- A text, and then two more. -/
def letters : List (List Value) := [[.text "a"], [.text "b", .text "c"]]

/-- The first text is embedded, the second fails after its run, and the third is never asked for;
the dimension stays that of the first vector. -/
theorem fickle_embeds :
    ∃ batches : List Batch, batches.map Batch.texts = letters ∧ (∀ batch ∈ batches, batch.Lawful) ∧
      (batches.flatMap Batch.requests).length = 4 ∧
      dimensionAfter none (batches.flatMap Batch.done) = some 2 := by
  obtain ⟨batches, texts_eq, each, _, requests_eq, dimension_eq, _⟩ :=
    run_embeds fickle_givesArrays letters ⟨⟨⟨false, []⟩, none⟩, .empty⟩
  refine ⟨batches, texts_eq, fun batch member => (each batch member).1, ?_, ?_⟩
  · exact congrArg List.length requests_eq.symm
  · exact dimension_eq.symm

/-- An embedder with an id that does not fit in sixty-four bits. -/
def immense : Embedder Unit where
  graph := ⟨fun _ _ => pure []⟩
  tokenizer := ⟨fun _ => pure [2 ^ 63], fun _ => pure "", pure 0⟩

/-- A text is encoded to an id, and yet the graph is not run and the fault is none of
tokenization. -/
theorem immense_unrun :
    (immense.recorded.embedAll [.text "a"]).perform ⟨⟨⟨(), []⟩, none⟩, .empty⟩ =
        (.error (.tooLarge "integer too large for sixty-four bits"),
          ⟨⟨⟨(), [.encoding (.text "a") (.ok [2 ^ 63])]⟩, none⟩, .empty⟩) ∧
      (Fault.tooLarge "integer too large for sixty-four bits").families = [] :=
  ⟨rfl, rfl⟩

end Embedder

end RecallChat
