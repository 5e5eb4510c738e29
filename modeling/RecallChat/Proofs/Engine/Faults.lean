import RecallChat.Engine
import RecallChat.Proofs.Archive.Snapshot
import RecallChat.Proofs.Chat.Exchange
import RecallChat.Proofs.Engine.Wrapping
import RecallChat.Proofs.Floating.Products

/-!
# Faults of a chat

Whatever the token library and the backend of an engine do, a chat ends with a reply or with one of
the library's own faults.  The set of faults is computed part by part: every fault of a wrapped
tokenizer and of a backend is turned into one of the library's own, inputs and outputs that do not
fit are refused with one, and what is left can end with no fault at all, because the ids of a
sequence fit in sixty-four bits (`Decoding.Fed`) and every embedding is a vector.

What an engine relies on is written down in `EngineParts.Reliable`: encoding and decoding may fail in
any way and so may a backend, which may also give any number of arrays of any shapes; but ids are
integers of sixty-four bits, the clock can be read, and limits are whole numbers.  The window of new
sessions is the one other condition of the main theorem (`chat_contained`): one that no size can hold
is refused with a fault that is not the library's own (`chat_uncontained`).

The theorem also says that the guards of the contract never show: not in any step of a decoding that
a chat can reach (`Generator.Reached`), and not in any embedding.  The quotient of a similarity has a
guard too, since by zero it would be a fault of another kind.
-/

set_option autoImplicit false

namespace RecallChat

open RecallChat.Action

variable {σ : Type}

/-! ## Decodings -/

/-- Token ids that fit are inputs. -/
theorem tokenInputs_ends {ids : List Int} (fit : ∀ id ∈ ids, fitsWord id = true) :
    Outcome.Ends (fun _ => True) Fault.Own (tokenInputs ids) := by
  have words : ids.mapM wordOfInt = .ok (ids.map id) :=
    Outcome.mapM_eq_ok fun word member => if_pos (fit word member)
  rw [tokenInputs, words]
  trivial

/-- What the parts of a generator must be so that it ends with the library's own faults only. -/
structure Generator.Contained (generator : Generator σ) : Prop where
  graph : generator.graph.Contained
  tokenizer : generator.tokenizer.Contained
  clock : generator.clock.Ends (fun now => ∃ seconds, now = .real seconds) fun _ => False
  seconds : generator.settings.maxSeconds = .null ∨
    ∃ seconds, generator.settings.maxSeconds = .real seconds

/-- What holds of a decoding between two steps: it has tokens, all of sixty-four bits, and a whole
number of steps. -/
structure Decoding.Fed (decoding : Decoding) : Prop where
  nonempty : 0 < decoding.tokens.length
  fit : ∀ id ∈ decoding.tokens, fitsWord id = true
  whole : ∃ count, decoding.budget = .whole count

/-- A decoding with one more token that fits goes on having what it needs. -/
theorem Decoding.Fed.push {decoding : Decoding} (fed : decoding.Fed) {id : Int}
    (fits : fitsWord id = true) (piece : String) :
    ({ decoding with steps := decoding.steps + 1 }.push id piece).Fed := by
  have longer : ({ decoding with steps := decoding.steps + 1 }.push id piece).tokens =
      decoding.tokens ++ [id] :=
    (List.append_assoc _ _ _).symm
  constructor
  case nonempty =>
    rw [longer, List.length_append]
    exact Nat.succ_pos _
  case fit =>
    rw [longer]
    intro other member
    rcases List.mem_append.mp member with earlier | last
    · exact fed.fit other earlier
    · exact List.mem_singleton.mp last ▸ fits
  case whole => exact fed.whole

/-- What holds of the step to a next decoding. -/
def Progress.Fed : Progress → Prop
  | .piece _ next => next.Fed
  | .done _ => True

namespace Generator

variable {generator : Generator σ}

/-- The next token by one run of the graph, with the slice and the choice guarded. -/
def guardedToken (generator : Generator σ) (tokens : List Int) : Action σ Int := do
  let outputs ← generator.graph.run (← Action.ofExcept (tokenInputs tokens)) ["logits"]
  let logits ← Action.ofExcept (requireOutput outputs "logits" tokens.length)
  Action.ofExcept (logits.rowAt 0 (tokens.length - 1) >>= guardedChoice)

/-- The decodings that can be reached from a start, step by step. -/
inductive Reached (generator : Generator σ) (maxTokens : Value) : Decoding → Prop
  | start {prompt : Text.CodePoints} {decoding : Decoding} {scene after : Scene σ}
      (started : (generator.start prompt maxTokens).perform scene = (.ok decoding, after)) :
      Reached generator maxTokens decoding
  | step {decoding next : Decoding} {text : String} {scene after : Scene σ}
      (reached : Reached generator maxTokens decoding)
      (advanced : (generator.advance (pure false) decoding).perform scene =
        (.ok (.piece text next), after)) :
      Reached generator maxTokens next

theorem deadline_ends (contained : generator.Contained) :
    generator.deadline.Ends (fun _ => True) Fault.Own := by
  unfold deadline
  rcases contained.seconds with unbounded | ⟨seconds, bounded⟩
  · rw [unbounded]
    exact .pure trivial
  · rw [bounded]
    refine contained.clock.of_sure.bind fun now is => ?_
    obtain ⟨moment, rfl⟩ := is
    exact .pure trivial

theorem start_ends (contained : generator.Contained) (prompt : Text.CodePoints) {maxTokens : Value}
    {count : Int} (whole : generator.budget maxTokens = .whole count) :
    (generator.start prompt maxTokens).Ends Decoding.Fed Fault.Own := by
  refine (deadline_ends contained).bind fun deadline _ => ?_
  refine (contained.tokenizer.encode _).bind fun tokens fit => ?_
  by_cases empty : tokens.isEmpty = true
  · rw [if_pos empty]
    exact .throw rfl
  · rw [if_neg empty]
    refine contained.tokenizer.endId.bind fun endId _ => .pure ?_
    have same : tokens ++ [] = tokens := List.append_nil tokens
    constructor
    case nonempty =>
      rw [Decoding.tokens, same]
      exact List.length_pos_iff.mpr (mt List.isEmpty_iff.mpr empty)
    case fit =>
      rw [Decoding.tokens, same]
      exact fit
    case whole => exact ⟨count, whole⟩

theorem checkStop_ends (contained : generator.Contained) (decoding : Decoding) :
    (generator.checkStop (pure false) decoding).Ends (fun _ => True) Fault.Own := by
  unfold checkStop
  rw [pure_bind]
  cases decoding.deadline with
  | none => exact .pure trivial
  | some moment =>
      refine contained.clock.of_sure.bind fun now _ => ?_
      split
      · exact .throw rfl
      · exact .pure trivial

/-- A token is chosen among positions of a row, of which there are not too many. -/
theorem nextToken_ends (contained : generator.Contained) {tokens : List Int}
    (nonempty : 0 < tokens.length) (fit : ∀ id ∈ tokens, fitsWord id = true) :
    (generator.nextToken tokens).Ends (fun id => fitsWord id = true) Fault.Own := by
  refine (Ends.ofExcept (tokenInputs_ends fit)).bind fun feed _ => ?_
  refine (contained.graph feed _).bind fun outputs proper => ?_
  refine (Ends.ofExcept (requireOutput_ends proper _ _)).bind fun logits accepted => .pure ?_
  obtain ⟨width, fits⟩ := accepted
  have long : 0 < (lastRow logits tokens.length).length :=
    (fits.length_lastRow nonempty).symm ▸ fits.positive
  -- the choice is below the width, and no array is wider than an id can be large
  have chosen := greedyToken_lt long
  rw [fits.length_lastRow nonempty] at chosen
  have small := fits.width_lt
  rw [fitsWord, decide_eq_true_iff]
  omega

/-- **In a decoding with tokens the guards never show.** -/
theorem nextToken_eq_guarded (contained : generator.Contained) {tokens : List Int}
    (nonempty : 0 < tokens.length) : generator.nextToken tokens = generator.guardedToken tokens := by
  refine (Ends.anyhow _).bind_congr fun feed _ => ?_
  refine (contained.graph feed _).bind_congr fun outputs proper => ?_
  refine (Ends.ofExcept (requireOutput_ends proper _ _)).bind_congr fun logits accepted => ?_
  obtain ⟨width, fits⟩ := accepted
  rw [fits.guardedChoice_eq nonempty]
  rfl

theorem advance_ends (contained : generator.Contained) {decoding : Decoding} (fed : decoding.Fed) :
    (generator.advance (pure false) decoding).Ends Progress.Fed Fault.Own := by
  have finish_ends (decoding : Decoding) (reason : StopReason) :
      (finish decoding reason : Action σ Progress).Ends Progress.Fed Fault.Own :=
    (Ends.log _ _ _).bind fun _ _ => .pure trivial
  have allowed : Outcome.Ends (fun _ => True) Fault.Own
      (decoding.budget.allows decoding.steps) := by
    obtain ⟨count, whole⟩ := fed.whole
    rw [whole]
    trivial
  unfold advance
  split
  · exact finish_ends decoding .newline
  · refine (Ends.ofExcept allowed).bind fun goesOn _ => ?_
    split
    · exact finish_ends decoding .maxTokens
    · refine (checkStop_ends contained decoding).bind fun _ _ => ?_
      refine (nextToken_ends contained fed.nonempty fed.fit).bind fun id fits => ?_
      dsimp only
      split
      · exact finish_ends _ .endToken
      · have alone : ∀ other ∈ [id], fitsWord other = true :=
          List.forall_mem_singleton.mpr fits
        refine (contained.tokenizer.decode _ alone).bind fun piece _ => .pure ?_
        exact fed.push fits piece

/-- **Every decoding that can be reached has tokens that fit.** -/
theorem Reached.fed (contained : generator.Contained) {maxTokens : Value} {count : Int}
    (whole : generator.budget maxTokens = .whole count) {decoding : Decoding}
    (reached : generator.Reached maxTokens decoding) : decoding.Fed := by
  induction reached with
  | start started => exact (start_ends contained _ whole).of_ok started
  | step _ advanced ih => exact (advance_ends contained ih).of_ok advanced

theorem drain_ends (contained : generator.Contained) (fuel : Nat) {decoding : Decoding}
    (fed : decoding.Fed) (pieces : List String) :
    (generator.drain (pure false) fuel decoding pieces).Ends (fun _ => True) Fault.Own := by
  induction fuel generalizing decoding pieces with
  | zero => exact .pure trivial
  | succ fuel ih =>
      refine (advance_ends contained fed).bind fun progress goesOn => ?_
      cases progress with
      | piece text next => exact ih goesOn _
      | done result => exact .pure trivial

/-- **A generator ends with the library's own faults only.** -/
theorem generate_ends (contained : generator.Contained) (prompt : Text.CodePoints) {maxTokens : Value}
    {count : Int} (whole : generator.budget maxTokens = .whole count) :
    (generator.generate prompt maxTokens).Ends (fun _ => True) Fault.Own := by
  have decoded : (generator.decodeAll prompt maxTokens (pure false)).Ends (fun _ => True)
      Fault.Own :=
    (start_ends contained prompt whole).bind fun decoding fed => drain_ends contained _ fed []
  have detailed : (generator.generateDetailed prompt maxTokens (pure false)).Ends (fun _ => True)
      Fault.Own :=
    decoded.map fun _ _ => trivial
  exact detailed.map fun _ _ => trivial

end Generator

/-! ## Embeddings -/

namespace Embedder

variable {embedder : Embedder σ}

/-- The vector of a text, with the slices and the mean guarded. -/
def guardedVector (embedder : Embedder σ) (text : Value) : Action σ Vector32 := do
  let tokens ← embedder.tokenizer.encode text
  if tokens.isEmpty then throw (.tokenization .emptyText)
  let outputs ← embedder.graph.run (← Action.ofExcept (tokenInputs tokens)) ["last_hidden_state"]
  let hidden ← Action.ofExcept (requireOutput outputs "last_hidden_state" tokens.length)
  Action.ofExcept (hidden.guardedMean tokens.length)

/-- **An embedder ends with the library's own faults only.** -/
theorem vectorOf_ends (graph : embedder.graph.Contained) (tokenizer : embedder.tokenizer.Contained)
    (text : Value) : (embedder.vectorOf text).Ends (fun _ => True) Fault.Own := by
  refine (tokenizer.encode text).bind fun tokens fit => ?_
  by_cases empty : tokens.isEmpty = true
  · rw [if_pos empty]
    exact .throw rfl
  · rw [if_neg empty]
    refine (Ends.ofExcept (tokenInputs_ends fit)).bind fun feed _ => ?_
    refine (graph feed _).bind fun outputs proper => ?_
    exact (Ends.ofExcept (requireOutput_ends proper _ _)).bind fun _ _ => .pure trivial

/-- **In an embedding the guards never show.** -/
theorem vectorOf_eq_guarded (graph : embedder.graph.Contained) (text : Value) :
    embedder.vectorOf text = embedder.guardedVector text := by
  refine (Ends.anyhow _).bind_congr fun tokens _ => ?_
  by_cases empty : tokens.isEmpty = true
  · rw [if_pos empty, if_pos empty]
    rfl
  · rw [if_neg empty, if_neg empty]
    have nonempty : 0 < tokens.length :=
      List.length_pos_iff.mpr (mt List.isEmpty_iff.mpr empty)
    refine (Ends.anyhow _).bind_congr fun feed _ => ?_
    refine (graph feed _).bind_congr fun outputs proper => ?_
    refine (Ends.ofExcept (requireOutput_ends proper _ _)).bind_congr fun hidden accepted => ?_
    obtain ⟨width, fits⟩ := accepted
    rw [fits.guardedMean_eq nonempty]
    rfl

end Embedder

/-! ## Chats -/

namespace Conversation

variable {conversation : Conversation σ}

/-- What the parts of a conversation must be so that it ends with the library's own faults only. -/
structure Contained (conversation : Conversation σ) : Prop where
  embed : ∀ text, (conversation.embed text).Ends
    (fun value => ∃ vector : Vector32, value = vector.toValue) Fault.Own
  generate : ∀ prompt,
    (conversation.generate prompt conversation.maxTokens).Ends (fun _ => True) Fault.Own
  topK : ∃ count, Limit.ofValue conversation.topK = .whole count

theorem prepare_ends (contained : conversation.Contained) (handle : Handle) (message : Value) :
    (conversation.prepare handle message).Ends
      (fun turn => ∃ vector : Vector32, turn.embedding = vector.toValue) Fault.Own := by
  obtain ⟨count, limit⟩ := contained.topK
  refine ((contained.embed message).within _ _).bind fun value is => ?_
  obtain ⟨vector, rfl⟩ := is
  refine Ends.world.bind fun world _ => ?_
  have searched : Outcome.Ends (fun _ => True) Fault.Own
      (world.chat.memory.search vector.toValue (.ofValue conversation.topK)) := by
    rw [limit, Memory.search_eq_top _ vector.ofValue_toValue]
    trivial
  refine (Ends.ofExcept searched).bind fun retrieved _ => ?_
  exact ((contained.generate _).within _ _).bind fun response _ => .pure ⟨vector, rfl⟩

theorem commit_ends (handle : Handle) (message : Value) {turn : PreparedTurn}
    (is : ∃ vector : Vector32, turn.embedding = vector.toValue) :
    (commit handle message turn : Action (Conversing σ) Unit).Ends (fun _ => True) Fault.Own := by
  obtain ⟨vector, embedded⟩ := is
  refine (Ends.change _).bind fun _ _ => Ends.world.bind fun world _ => ?_
  have added : Outcome.Ends (fun _ => True) Fault.Own
      (world.chat.memory.add message turn.embedding) := by
    rw [embedded, Memory.add_of_isVector _ vector.ofValue_toValue]
    trivial
  exact (Ends.ofExcept added).bind fun memory _ => Ends.change _

section Opened

variable (contained : conversation.Contained) (message : Value) {sessionId : Value}
  {scene : Scene (Conversing σ)} {handle : Handle} {opened : Registry}
  (created : scene.world.chat.registry.getOrCreate sessionId = .ok (handle, opened))

include contained created

/-- **Once its session is open a turn ends with the library's own faults only.** -/
theorem turn_ends : Outcome.Ends (fun _ => True) Fault.Own
    ((conversation.turn message sessionId).perform scene).1 := by
  rw [turn, perform_bind_of_ok (perform_openSession scene created)]
  refine (Ends.world.bind fun world _ => ?_) _
  refine (prepare_ends contained handle message).attempt.bind fun outcome ended => ?_
  cases outcome with
  | error fault => exact (Ends.log _ _ _).bind fun _ _ => .throw ended
  | ok prepared =>
      -- nothing is left that could fail: the embedding is a vector and the reply a text
      have measured : Outcome.Ends (fun _ => True) Fault.Own
          (Utterance.length prepared.response) := trivial
      refine (commit_ends handle message ended).bind fun _ _ => ?_
      refine (Ends.ofExcept measured).bind fun length _ => ?_
      exact (Ends.log _ _ _).bind fun _ _ => .pure trivial

theorem chat_ends : Outcome.Ends (fun _ => True) Fault.Own
    ((conversation.chat message sessionId).perform scene).1 := by
  rw [chat, perform_map]
  exact (turn_ends contained message created).map fun _ _ => trivial

end Opened

end Conversation

namespace Registry

/-- A session can be opened for any key where the window of new ones is a size. -/
theorem getOrCreate_of_size {registry : Registry} {id : Value} {size : Nat} (positive : 0 < size)
    (bounded : size < 2 ^ 63) (history : registry.maxHistory = .integer size)
    (hashable : (registry.resolveId id).isHashable = true) :
    ∃ handle opened, registry.getOrCreate id = .ok (handle, opened) := by
  unfold getOrCreate key
  rw [if_pos hashable]
  cases found : registry.handle? (registry.resolveId id) with
  | some handle =>
      refine ⟨handle, registry, ?_⟩
      simp only [bind, Except.bind, found]
      rfl
  | none =>
      obtain ⟨session, made⟩ : ∃ session,
          Session.make (registry.resolveId id) registry.maxHistory = .ok session := by
        rw [Session.make, history, Window.ofValue_integer positive bounded]
        exact ⟨_, rfl⟩
      refine ⟨registry.pool.length, registry.register session, ?_⟩
      simp only [bind, Except.bind, found, made]
      rfl

end Registry

/-! ## Engines -/

theorem Graph.Contained.hosted {graph : Graph σ} (contained : graph.Contained) :
    (Hosted.graph graph).Contained :=
  fun feed requested => (contained feed requested).within _ _

theorem Hosted.embed_ends {embedder : Embedder (Hosted σ)} (graph : embedder.graph.Contained)
    (tokenizer : embedder.tokenizer.Contained) (text : Value) :
    (Hosted.embed embedder text).Ends (fun _ => True) Fault.Own := by
  refine Ends.within (((embedder.vectorOf_ends graph tokenizer text).within _ _).bind ?_) _ _
  exact fun vector _ => (Ends.change _).bind fun _ _ => .pure trivial

namespace EngineParts

/-- What an engine relies on.  A backend and the wrapped tokenizer may fail in any way, and a backend
may give any number of arrays of any shapes. -/
structure Reliable (parts : EngineParts σ) : Prop where
  adapter : parts.adapter.Reliable
  chat : parts.chat.backend.GivesArrays
  embedding : parts.embedding.backend.GivesArrays
  clock : parts.clock.Ends (fun now => ∃ seconds, now = .real seconds) fun _ => False
  seconds : parts.settings.maxSeconds = .null ∨
    ∃ seconds, parts.settings.maxSeconds = .real seconds
  budget : ∃ count, parts.generator.budget parts.maxTokens = .whole count
  topK : ∃ count, Limit.ofValue parts.topK = .whole count

variable {parts : EngineParts σ}

theorem Reliable.generator_contained (reliable : parts.Reliable) : parts.generator.Contained where
  graph := (InferenceSession.graph_contained reliable.chat).hosted
  tokenizer := reliable.adapter.contained.within _ _
  clock := reliable.clock.within _ _
  seconds := reliable.seconds

theorem Reliable.embedder_contained (reliable : parts.Reliable) :
    parts.embedder.graph.Contained ∧ parts.embedder.tokenizer.Contained :=
  ⟨(InferenceSession.graph_contained reliable.embedding).hosted,
    reliable.adapter.contained.within _ _⟩

theorem Reliable.conversation_contained (reliable : parts.Reliable) :
    parts.conversation.Contained where
  embed text := by
    obtain ⟨graph, tokenizer⟩ := reliable.embedder_contained
    exact (Hosted.embed_ends graph tokenizer text).map fun vector _ => ⟨vector, rfl⟩
  generate prompt := by
    obtain ⟨count, whole⟩ := reliable.budget
    exact Generator.generate_ends reliable.generator_contained prompt whole
  topK := reliable.topK

/-- **A chat of an engine ends with the library's own faults only**, and in no step that it can reach
is a slice out of bounds, a row empty, a number of rows zero or a product of norms zero. -/
theorem chat_contained (reliable : parts.Reliable) (scene : Scene (EngineWorld σ))
    (message : Value) {sessionId : Value} {size : Nat} (positive : 0 < size)
    (bounded : size < 2 ^ 63)
    (history : scene.world.chat.registry.maxHistory = .integer size)
    (hashable : (scene.world.chat.registry.resolveId sessionId).isHashable = true) :
    (∀ fault after, (parts.conversation.chat message sessionId).perform scene =
        (.error fault, after) → fault.isOwn = true) ∧
      (∀ decoding, parts.generator.Reached parts.maxTokens decoding →
        parts.generator.nextToken decoding.tokens =
          parts.generator.guardedToken decoding.tokens) ∧
      (∀ text, parts.embedder.vectorOf text = parts.embedder.guardedVector text) ∧
      ∀ a b : Vector32, a.guardedCosine b = .ok (a.cosine b) := by
  refine ⟨?_, ?_, ?_, Vector32.guardedCosine_eq⟩
  · intro fault after failed
    obtain ⟨handle, opened, created⟩ :=
      Registry.getOrCreate_of_size positive bounded history hashable
    have ended := Conversation.chat_ends reliable.conversation_contained message created
    rw [failed] at ended
    exact ended
  · intro decoding reached
    obtain ⟨count, whole⟩ := reliable.budget
    have fed := reached.fed reliable.generator_contained whole
    exact Generator.nextToken_eq_guarded reliable.generator_contained fed.nonempty
  · exact fun text => Embedder.vectorOf_eq_guarded reliable.embedder_contained.1 text

/-- The session of a backend that takes any sequence of tokens. -/
def takingTokens (outputs : List String) (run : Action Unit (List Tensor)) : InferenceSession Unit where
  backend :=
    { inputs :=
        [("input_ids", some [.size 1, .unknown]), ("attention_mask", some [.size 1, .unknown])]
      outputs := outputs
      run := fun _ _ => run }
  path := .ofText "model.onnx"
  provider := "CPUExecutionProvider"
  attempts := []

/-- An engine whose generating graph cannot be run. -/
def failing : EngineParts Unit where
  adapter :=
    { wrapped :=
        { size := pure 1
          vocabulary := pure [("a", 0)]
          encode := fun _ => pure [0]
          decode := fun _ => pure "a"
          ownEnd := pure none }
      endToken := .null }
  chat := takingTokens ["logits"] (throw (.outside .backend "out of memory"))
  embedding := takingTokens ["last_hidden_state"]
    (pure [⟨[1, 1, 2], .integer true 64 #[3, 4]⟩])
  clock := pure (.real (Floating.zero .double))
  settings := .standard
  topK := .integer 2
  maxTokens := .integer 4

theorem failing_reliable : failing.Reliable where
  adapter :=
    { ids_fit := fun _ => .pure (by decide)
      vocabulary := .pure trivial
      ownEnd := .pure (.inl rfl)
      endToken := rfl }
  chat _ _ := .throw trivial
  embedding _ _ := .pure (by
    intro tensor member
    rw [List.mem_singleton.mp member]
    exact ⟨rfl, by decide, nofun⟩)
  clock := .pure ⟨_, rfl⟩
  seconds := .inl rfl
  budget := ⟨4, rfl⟩
  topK := ⟨2, rfl⟩

/-- An engine at its start, with a window for new sessions. -/
def starting (maxHistory : Value) : Scene (EngineWorld Unit) :=
  ⟨⟨.start (), ⟨.empty maxHistory (.text "default"), .empty⟩⟩, .empty⟩

/-- A graph that cannot be run makes a chat fail with one of the library's own faults. -/
theorem failing_contained :
    ∃ fault after, (failing.conversation.chat (.text "hi") .null).perform (starting (.integer 10)) =
        (.error fault, after) ∧ fault.isOwn = true ∧
      ∃ decoding, failing.generator.Reached failing.maxTokens decoding ∧
        failing.generator.nextToken decoding.tokens =
          failing.generator.guardedToken decoding.tokens := by
  have positive : 0 < 10 := by decide
  have bounded : 10 < 2 ^ 63 := by decide
  have history : (starting (.integer 10)).world.chat.registry.maxHistory = .integer (10 : Nat) := rfl
  have hashable : ((starting (.integer 10)).world.chat.registry.resolveId .null).isHashable = true :=
    rfl
  obtain ⟨own, guarded, _⟩ :=
    chat_contained failing_reliable _ (.text "hi") positive bounded history hashable
  have turned : ∃ fault after,
      (failing.conversation.turn (.text "hi") .null).perform (starting (.integer 10)) =
        (.error fault, after) := ⟨_, _, rfl⟩
  obtain ⟨fault, after, turned⟩ := turned
  have failed : (failing.conversation.chat (.text "hi") .null).perform (starting (.integer 10)) =
      (.error fault, after) := by
    rw [Conversation.chat, perform_map, turned]
    rfl
  have started : ∃ decoding after,
      (failing.generator.start (.ofString "user: hi\n") failing.maxTokens).perform
        ⟨.start (), .empty⟩ = (.ok decoding, after) := ⟨_, _, rfl⟩
  obtain ⟨decoding, _, started⟩ := started
  have reached : failing.generator.Reached failing.maxTokens decoding := .start started
  exact ⟨fault, after, failed, own fault after failed, decoding, reached, guarded _ reached⟩

/-- A window of more messages than can be counted makes a chat fail with a fault that is not the
library's own. -/
theorem chat_uncontained :
    failing.Reliable ∧ ∃ fault after,
      (failing.conversation.chat (.text "hi") .null).perform (starting (.integer (2 ^ 63))) =
        (.error fault, after) ∧ fault.isOwn = false :=
  ⟨failing_reliable, _, _, rfl, rfl⟩

end EngineParts

end RecallChat
