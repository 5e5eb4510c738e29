import RecallChat.Proofs.Chat.Sessions
import RecallChat.Proofs.Outcome
import RecallChat.Proofs.Recording

/-!
# Exchanges

An exchange is one turn with what it asked of the embedder and the generator and what they answered.
`Conversation.converse` makes the turns of a list of calls one after the other and keeps the
exchanges.  The requests are those of the recorded turn, which has the outcome and the effect of the
plain one (`exchange_eq_recorded`).

The course of a turn is one of few, whatever its generator replies with.  It fails where no session
can be opened, and where its reply cannot be prepared because the embedder or the generator fails.
Once the reply is prepared its session gets two messages, and the memory an entry if the embedding
is a vector; after that the turn can still fail where the reply has no length.
-/

set_option autoImplicit false

namespace RecallChat

/-! ## Embeddings and the memory -/

namespace Memory

variable (memory : Memory) {value : Value} {vector : Vector32} {fault : Fault}

/-- A memory can be searched for any vector and any whole number of results. -/
theorem search_eq_top (isVector : Vector32.ofValue value = .ok vector) (count : Int) :
    memory.search value (.whole count) = .ok (memory.top vector count) := by
  unfold search
  by_cases none : count ≤ 0
  · have refused : (Limit.whole count).isNotPositive = .ok true := by
      simp [Limit.isNotPositive, none]
    have zero : count.toNat = 0 := Int.toNat_of_nonpos none
    rw [refused, top, zero, List.take_zero]
    rfl
  · have accepted : (Limit.whole count).isNotPositive = .ok false := by
      simpa [Limit.isNotPositive] using none
    rw [accepted, isVector]
    cases empty : memory.entries with
    | nil =>
        rw [top, ranking, scores, empty, List.map_nil, List.mergeSort_nil,
          List.take_nil]
        rfl
    | cons entry rest => rfl

/-- A value that is no vector can be searched for only where nothing is searched for. -/
theorem unsearched_of_search (noVector : Vector32.ofValue value = .error fault) {limit : Limit}
    {found : List (Value × Double)} (searched : memory.search value limit = .ok found) :
    memory.entries = [] ∨ limit.isNotPositive = .ok true := by
  unfold search at searched
  obtain ⟨stops, limited, searched⟩ := Outcome.bind_eq_ok.mp searched
  cases stops with
  | true => exact .inr limited
  | false =>
      left
      cases entries : memory.entries with
      | nil => rfl
      | cons entry rest =>
          rw [entries, noVector] at searched
          cases searched

theorem add_of_isVector (isVector : Vector32.ofValue value = .ok vector) (text : Value) :
    memory.add text value = .ok (memory.push ⟨text, vector⟩) := by
  rw [add, entryOf, isVector]
  rfl

theorem add_of_noVector (noVector : Vector32.ofValue value = .error fault) (text : Value) :
    memory.add text value = .error fault := by
  rw [add, entryOf, noVector]
  rfl

end Memory

/-! ## Recorded turns -/

/-- A call of a conversation. -/
structure Call where
  message : Value
  sessionId : Value

/-- What a turn asks of a component, with the answer. -/
inductive TurnRequest where
  | embedding (text : Value) (answer : Except Fault Value)
  | reply (prompt : Text.CodePoints) (maxTokens : Value) (answer : Except Fault String)

/-- One turn: its call, what it asked of the components, and its outcome. -/
structure Exchange where
  call : Call
  requests : List TurnRequest
  outcome : Except Fault TurnReport

namespace Conversing

variable {ρ σ : Type}

/-- The world without the requests. -/
def plain (world : Conversing (Recorded ρ σ)) : Conversing σ := ⟨world.inner.inner, world.chat⟩

/-- The world with no requests yet. -/
def unrecorded (world : Conversing σ) : Conversing (Recorded ρ σ) := ⟨⟨world.inner, []⟩, world.chat⟩

end Conversing

namespace Conversation

variable {σ : Type}

/-- The conversation with everything it asks of its components written down. -/
def recorded (conversation : Conversation σ) : Conversation (Recorded TurnRequest σ) where
  embed text := (conversation.embed text).recorded (.embedding text)
  generate prompt maxTokens :=
    (conversation.generate prompt maxTokens).recorded (.reply prompt maxTokens)
  topK := conversation.topK
  maxTokens := conversation.maxTokens

section Answers

variable {conversation : Conversation σ} {inner : σ} {journal : Journal} {after : Scene σ}
  (requests : List TurnRequest)

theorem perform_recorded_embed {text : Value} {outcome : Except Fault Value}
    (answered : (conversation.embed text).perform ⟨inner, journal⟩ = (outcome, after)) :
    (conversation.recorded.embed text).perform ⟨⟨inner, requests⟩, journal⟩ =
      (outcome, ⟨⟨after.world, requests ++ [.embedding text outcome]⟩, after.journal⟩) :=
  Action.perform_recorded_of requests answered

theorem perform_recorded_generate {prompt : Text.CodePoints} {maxTokens : Value}
    {outcome : Except Fault String}
    (answered : (conversation.generate prompt maxTokens).perform ⟨inner, journal⟩ =
      (outcome, after)) :
    (conversation.recorded.generate prompt maxTokens).perform ⟨⟨inner, requests⟩, journal⟩ =
      (outcome, ⟨⟨after.world, requests ++ [.reply prompt maxTokens outcome]⟩, after.journal⟩) :=
  Action.perform_recorded_of requests answered

end Answers

/-- The exchange of a call, and the scene after it: the turn's outcome, with what the recorded turn
has written down. -/
def exchange (conversation : Conversation σ) (call : Call) (scene : Scene (Conversing σ)) :
    Exchange × Scene (Conversing σ) :=
  let (outcome, after) := (conversation.turn call.message call.sessionId).perform scene
  let (_, recorded) := (conversation.recorded.turn call.message call.sessionId).perform
    (Action.sceneOf Conversing.unrecorded scene)
  (⟨call, recorded.world.inner.requests, outcome⟩, after)

/-- The exchanges of calls made one after the other, and the scene after all of them. -/
def converse (conversation : Conversation σ) :
    List Call → Scene (Conversing σ) → List Exchange × Scene (Conversing σ)
  | [], scene => ([], scene)
  | call :: rest, scene =>
    let (exchange, after) := conversation.exchange call scene
    let (others, last) := conversation.converse rest after
    (exchange :: others, last)

section Mirroring

open RecallChat.Action (Mirrors)

variable (conversation : Conversation σ)

theorem openSession_mirrors (sessionId : Value) :
    Mirrors (Conversing.plain : Conversing (Recorded TurnRequest σ) → Conversing σ)
      (openSession sessionId) (openSession sessionId) := by
  refine .world fun _ => .bind (.ofExcept _) fun (_, _) => .bind (.change ?_) fun _ => .pure _
  exact fun _ => rfl

theorem prepare_mirrors (handle : Handle) (message : Value) :
    Mirrors Conversing.plain (conversation.recorded.prepare handle message)
      (conversation.prepare handle message) :=
  .bind (fun _ => rfl) fun _ => .world fun _ => .bind (.ofExcept _) fun _ =>
    .bind (fun _ => rfl) fun _ => .pure _

theorem commit_mirrors (handle : Handle) (message : Value) (turn : PreparedTurn) :
    Mirrors (Conversing.plain : Conversing (Recorded TurnRequest σ) → Conversing σ)
      (commit handle message turn) (commit handle message turn) := by
  refine .bind (.change ?_) fun _ => .world fun _ => .bind (.ofExcept _) fun _ => .change ?_
  · exact fun _ => rfl
  · exact fun _ => rfl

theorem turn_mirrors (message sessionId : Value) :
    Mirrors Conversing.plain (conversation.recorded.turn message sessionId)
      (conversation.turn message sessionId) := by
  refine .bind (openSession_mirrors sessionId) fun handle => .world fun world =>
    .bind (.attempt (prepare_mirrors conversation handle message)) fun prepared => ?_
  cases prepared with
  | error fault => exact .bind (.log _ _ _) fun _ => .throw fault
  | ok turn =>
      exact .bind (commit_mirrors handle message turn) fun _ => .bind (.ofExcept _) fun _ =>
        .bind (.log _ _ _) fun _ => .pure _

/-- The recorded turn has the outcome and the effect of the plain one. -/
theorem exchange_eq_recorded (call : Call) (scene : Scene (Conversing σ))
    {outcome : Except Fault TurnReport} {after : Scene (Conversing (Recorded TurnRequest σ))}
    (turned : (conversation.recorded.turn call.message call.sessionId).perform
      (Action.sceneOf Conversing.unrecorded scene) = (outcome, after)) :
    conversation.exchange call scene =
      (⟨call, after.world.inner.requests, outcome⟩, Action.sceneOf Conversing.plain after) := by
  have same : (conversation.turn call.message call.sessionId).perform scene =
      (outcome, Action.sceneOf Conversing.plain after) := by
    have mirrored := turn_mirrors conversation call.message call.sessionId
      (Action.sceneOf Conversing.unrecorded scene)
    rw [turned] at mirrored
    exact mirrored
  rw [exchange, same, turned]

end Mirroring

/-- A conversation whose embedder and generator always give the same. -/
def constant : Conversation Unit where
  embed _ := pure (.list [.integer 1])
  generate _ _ := pure "ok"
  topK := .integer 3
  maxTokens := .null

/-! ## The course of a turn -/

section Course

open RecallChat.Action

variable {ρ : Type} {conversation : Conversation σ ρ} {message sessionId : Value}
  {handle : Handle} {opened : Registry} (scene : Scene (Conversing σ))

theorem perform_openSession
    (created : scene.world.chat.registry.getOrCreate sessionId = .ok (handle, opened)) :
    (openSession sessionId).perform scene =
      (.ok handle, ⟨⟨scene.world.inner, ⟨opened, scene.world.chat.memory⟩⟩, scene.journal⟩) := by
  rw [openSession, perform_bind_of_ok (perform_world scene), perform_bind, perform_ofExcept,
    created]
  rfl

section Prepare

variable (handle : Handle)

/-- What the embedder gives inside a conversation. -/
theorem perform_inside_embed {outcome : Except Fault Value} {after : Scene σ}
    (embedded : (conversation.embed message).perform (sceneOf Conversing.inner scene) =
      (outcome, after)) :
    (inside (conversation.embed message)).perform scene =
      (outcome, ⟨⟨after.world, scene.world.chat⟩, after.journal⟩) := by
  unfold sceneOf at embedded
  rw [inside, perform_within, embedded]

theorem perform_prepare_of_unembedded {fault : Fault} {after : Scene σ}
    (failed : (conversation.embed message).perform (sceneOf Conversing.inner scene) =
      (.error fault, after)) :
    (conversation.prepare handle message).perform scene =
      (.error fault, ⟨⟨after.world, scene.world.chat⟩, after.journal⟩) :=
  perform_bind_of_error (perform_inside_embed scene failed)

variable {value : Value} {middle : Scene σ}
  (embedded : (conversation.embed message).perform (sceneOf Conversing.inner scene) =
    (.ok value, middle))

include embedded

theorem perform_prepare_of_unsearched {fault : Fault}
    (refused : scene.world.chat.memory.search value (.ofValue conversation.topK) =
      .error fault) :
    (conversation.prepare handle message).perform scene =
      (.error fault, ⟨⟨middle.world, scene.world.chat⟩, middle.journal⟩) := by
  rw [prepare, perform_bind_of_ok (perform_inside_embed scene embedded),
    perform_bind_of_ok (perform_world _), perform_bind, perform_ofExcept, refused]

/-- Once a message is embedded and searched for, its turn is prepared when the generator replies. -/
theorem perform_prepare_of_embedded {retrieved : List (Value × Double)}
    {outcome : Except Fault ρ} {after : Scene σ}
    (searched : scene.world.chat.memory.search value (.ofValue conversation.topK) = .ok retrieved)
    (replied : (conversation.generate
        (buildPrompt (retrieved.map Prod.fst)
          (scene.world.chat.registry.promptFor handle [⟨.user, message⟩]))
        conversation.maxTokens).perform middle = (outcome, after)) :
    (conversation.prepare handle message).perform scene =
      (outcome.map fun response => ⟨value, retrieved,
          buildPrompt (retrieved.map Prod.fst)
            (scene.world.chat.registry.promptFor handle [⟨.user, message⟩]), response⟩,
        ⟨⟨after.world, scene.world.chat⟩, after.journal⟩) := by
  rw [prepare, perform_bind_of_ok (perform_inside_embed scene embedded),
    perform_bind_of_ok (perform_world _), perform_bind, perform_ofExcept, searched]
  dsimp only
  rw [perform_bind, inside, perform_within, replied]
  cases outcome <;> rfl

end Prepare

variable [Utterance ρ]

/-- A turn for which no session can be opened changes nothing. -/
theorem perform_turn_of_unopened {fault : Fault}
    (refused : scene.world.chat.registry.getOrCreate sessionId = .error fault) :
    (conversation.turn message sessionId).perform scene = (.error fault, scene) := by
  have unopened : (openSession sessionId).perform scene = (.error fault, scene) := by
    rw [openSession, perform_bind_of_ok (perform_world scene), perform_bind, perform_ofExcept,
      refused]
  exact perform_bind_of_error unopened

section Commit

variable {prepared : PreparedTurn ρ}

/-- A turn with an embedding that is a vector is added to its session and to the memory. -/
theorem perform_commit_of_added {memory : Memory}
    (added : scene.world.chat.memory.add message prepared.embedding = .ok memory) :
    (commit handle message prepared).perform scene =
      (.ok (), ⟨⟨scene.world.inner,
        ⟨scene.world.chat.registry.addTurn handle message (Utterance.content prepared.response),
          memory⟩⟩, scene.journal⟩) := by
  rw [commit, perform_bind_of_ok (perform_change _ scene), perform_bind_of_ok (perform_world _),
    perform_bind, perform_ofExcept, added]
  rfl

/-- A turn with an embedding that is no vector is added to its session all the same. -/
theorem perform_commit_of_refused {fault : Fault}
    (refused : scene.world.chat.memory.add message prepared.embedding = .error fault) :
    (commit handle message prepared).perform scene =
      (.error fault, ⟨⟨scene.world.inner,
        ⟨scene.world.chat.registry.addTurn handle message (Utterance.content prepared.response),
          scene.world.chat.memory⟩⟩, scene.journal⟩) := by
  rw [commit, perform_bind_of_ok (perform_change _ scene), perform_bind_of_ok (perform_world _),
    perform_bind, perform_ofExcept, refused]

end Commit

/-- The log record of a turn that failed. -/
def failureRecord (id : Value) : LogRecord :=
  ⟨.warning, .ofString logSource,
    .ofString "Chat turn failed for session '" ++ id.displayed ++
      .ofString "'; state left unchanged"⟩

/-- The log record of a turn with a reply. -/
def completionRecord (id : Value) (turn : PreparedTurn ρ) (length : Nat) : LogRecord :=
  ⟨.debug, .ofString logSource,
    .ofString "Turn complete for session '" ++ id.displayed ++ .ofString ("': " ++
      toString turn.retrieved.length ++ " memories retrieved, " ++ toString length ++
        " chars generated")⟩

section Opened

variable (created : scene.world.chat.registry.getOrCreate sessionId = .ok (handle, opened))
  {after : Scene (Conversing σ)}

include created

/-- A turn that cannot be prepared leaves the state with its session open. -/
theorem perform_turn_of_unprepared {fault : Fault}
    (failed : (conversation.prepare handle message).perform
        ⟨⟨scene.world.inner, ⟨opened, scene.world.chat.memory⟩⟩, scene.journal⟩ =
      (.error fault, after)) :
    (conversation.turn message sessionId).perform scene =
      (.error fault,
        ⟨after.world, after.journal.write (failureRecord (opened.session handle).id)⟩) := by
  rw [turn, perform_bind_of_ok (perform_openSession scene created),
    perform_bind_of_ok (perform_world _), perform_bind, perform_attempt, failed]
  rfl

variable {prepared : PreparedTurn ρ}
  (ready : (conversation.prepare handle message).perform
      ⟨⟨scene.world.inner, ⟨opened, scene.world.chat.memory⟩⟩, scene.journal⟩ =
    (.ok prepared, after))

include ready

/-- A turn that is prepared adds both messages to its session and the user's to the memory. -/
theorem perform_turn_of_prepared {memory : Memory} {length : Nat}
    (added : after.world.chat.memory.add message prepared.embedding = .ok memory)
    (measured : Utterance.length prepared.response = .ok length) :
    (conversation.turn message sessionId).perform scene =
      (.ok ⟨prepared.response, (opened.session handle).id, prepared.retrieved, prepared.prompt⟩,
        ⟨⟨after.world.inner,
          ⟨after.world.chat.registry.addTurn handle message (Utterance.content prepared.response),
            memory⟩⟩,
          after.journal.write
            (completionRecord (opened.session handle).id prepared length)⟩) := by
  rw [turn, perform_bind_of_ok (perform_openSession scene created),
    perform_bind_of_ok (perform_world _), perform_bind, perform_attempt, ready]
  dsimp only
  rw [perform_bind_of_ok (perform_commit_of_added after added), perform_bind, perform_ofExcept,
    measured]
  rfl

/-- A turn whose reply has no length fails after everything was added. -/
theorem perform_turn_of_unmeasured {memory : Memory} {fault : Fault}
    (added : after.world.chat.memory.add message prepared.embedding = .ok memory)
    (unmeasured : Utterance.length prepared.response = .error fault) :
    (conversation.turn message sessionId).perform scene =
      (.error fault,
        ⟨⟨after.world.inner,
          ⟨after.world.chat.registry.addTurn handle message (Utterance.content prepared.response),
            memory⟩⟩, after.journal⟩) := by
  rw [turn, perform_bind_of_ok (perform_openSession scene created),
    perform_bind_of_ok (perform_world _), perform_bind, perform_attempt, ready]
  dsimp only
  rw [perform_bind_of_ok (perform_commit_of_added after added), perform_bind, perform_ofExcept,
    unmeasured]

/-- A turn whose embedding is no vector fails after its messages were added to its session. -/
theorem perform_turn_of_refused {fault : Fault}
    (refused : after.world.chat.memory.add message prepared.embedding = .error fault) :
    (conversation.turn message sessionId).perform scene =
      (.error fault,
        ⟨⟨after.world.inner,
          ⟨after.world.chat.registry.addTurn handle message (Utterance.content prepared.response),
            after.world.chat.memory⟩⟩, after.journal⟩) := by
  rw [turn, perform_bind_of_ok (perform_openSession scene created),
    perform_bind_of_ok (perform_world _), perform_bind, perform_attempt, ready]
  dsimp only
  rw [perform_bind_of_error (perform_commit_of_refused after refused)]

end Opened

end Course

end Conversation

end RecallChat
