import RecallChat.Proofs.Chat.Exchange

/-!
# Turns that fail

A turn computes its reply before it changes anything, so that one that fails leaves the histories
and the memory as they were (`ChatState.Same`).  Two faults come too late for that.  It is the search
that notices an embedding which is no vector, but nothing is searched for while the memory is empty
or no memories are asked for; then the memory refuses it, once the session has the turn.  And a reply
without a length is noticed where the turn is logged, once the session and the memory have it.

These are the only courses of a turn from a sound state, whatever the embedder and the generator do
(`turn_course`): it ends early with the state as it was, late with one of the two faults, or with a
report.  So a chat that fails keeps the state but for the two late faults (`chat_failure`), and both
of them happen (`chat_leaves_turns`).
-/

set_option autoImplicit false

namespace RecallChat

/-! ## States before and after -/

/-- That two states have the same history under every identifier, and the same memory. -/
structure ChatState.Same (before after : ChatState) : Prop where
  history_eq : ∀ id : Value, (before.registry.resolveId id).IsString →
    after.registry.history id = before.registry.history id
  memory_eq : after.memory = before.memory

/-- That messages were added to the session of an identifier, and to no other session. -/
structure ChatState.Gains (before after : ChatState) (id : Value) (messages : List Message) :
    Prop where
  view_self : ∃ size old, before.registry.openedView id = .ok (size, old) ∧
    after.registry.view id = some (size, recent size (old ++ messages))
  view_other : ∀ other : Value, other.IsString → other ≠ id →
    after.registry.view other = before.registry.view other

theorem ChatState.Same.refl (chat : ChatState) : chat.Same chat := ⟨fun _ _ => rfl, rfl⟩

namespace Registry

variable {registry opened : Registry} {id : Value} {place : Nat × List Message} {handle : Handle}

/-- A session that is opened has the history that was there before it. -/
theorem history_of_openedView (seen : registry.openedView id = .ok place) :
    ((registry.view id).map Prod.snd).getD [] = place.2 := by
  unfold openedView at seen
  cases present : registry.view id with
  | some old =>
      rw [present] at seen
      cases seen
      rfl
  | none =>
      rw [present] at seen
      obtain ⟨window, _, rfl⟩ := Outcome.map_eq_ok.mp seen
      rfl

/-- Opening a session changes no history. -/
theorem Opens.same (opens : registry.Opens id place handle opened)
    (seen : registry.openedView id = .ok place) (memory : Memory) :
    ChatState.Same ⟨registry, memory⟩ ⟨opened, memory⟩ := by
  refine ⟨fun asked string => ?_, rfl⟩
  have meant : opened.resolveId asked = registry.resolveId asked := by
    unfold resolveId
    rw [opens.defaultId_eq]
  rw [history_of_view string, history_of_view (meant.symm ▸ string), meant]
  by_cases own : registry.resolveId asked = id
  · rw [own, opens.view_self, history_of_openedView seen]
    rfl
  · rw [opens.view_other _ string own]

/-- A turn is added to the session that was opened for it. -/
theorem Opens.gains (opens : registry.Opens id place handle opened) (string : id.IsString)
    (seen : registry.openedView id = .ok place) (before after : Memory) (user assistant : Value) :
    ChatState.Gains ⟨registry, before⟩ ⟨opened.addTurn handle user assistant, after⟩ id
      [⟨.user, user⟩, ⟨.assistant, assistant⟩] := by
  refine ⟨⟨place.1, place.2, seen, ?_⟩, fun other string' ne => ?_⟩
  · exact view_addTurn_self opens.sound string opens.found opens.view_self user assistant
  · have kept : (opened.addTurn handle user assistant).view other = opened.view other :=
      view_modify_other opens.sound string string' opens.found ne
    rw [kept, opens.view_other other string' ne]

end Registry

/-! ## The courses of a turn -/

namespace Conversation

open RecallChat.Action

variable {σ ρ : Type}

/-- What a prepared turn owes to the embedder, the memory and the generator. -/
structure Prepares (conversation : Conversation σ ρ) (message : Value)
    (scene : Scene (Conversing σ)) (value : Value) (reply : ρ) : Prop where
  searched : ∃ found,
    scene.world.chat.memory.search value (.ofValue conversation.topK) = .ok found
  answered : ∃ prompt middle last,
    (conversation.embed message).perform (sceneOf Conversing.inner scene) = (.ok value, middle) ∧
    (conversation.generate prompt conversation.maxTokens).perform middle = (.ok reply, last)

/-- Preparing a turn changes no state, and it fails, or the embedder and the generator have both
given something. -/
theorem perform_prepare_cases (conversation : Conversation σ ρ) (handle : Handle) (message : Value)
    (scene : Scene (Conversing σ)) :
    ∃ outcome inner journal, (conversation.prepare handle message).perform scene =
        (outcome, ⟨⟨inner, scene.world.chat⟩, journal⟩) ∧
      ∀ prepared, outcome = .ok prepared →
        conversation.Prepares message scene prepared.embedding prepared.response := by
  rcases embedded : (conversation.embed message).perform (sceneOf Conversing.inner scene) with
    ⟨fault | value, middle⟩
  · exact ⟨_, _, _, perform_prepare_of_unembedded scene handle embedded, nofun⟩
  · cases searched : scene.world.chat.memory.search value (.ofValue conversation.topK) with
    | error fault =>
        exact ⟨_, _, _, perform_prepare_of_unsearched scene handle embedded searched, nofun⟩
    | ok found =>
        rcases replied : (conversation.generate (buildPrompt (found.map Prod.fst)
          (scene.world.chat.registry.promptFor handle [⟨.user, message⟩]))
          conversation.maxTokens).perform middle with ⟨outcome, last⟩
        refine ⟨_, _, _, perform_prepare_of_embedded scene handle embedded searched replied, ?_⟩
        intro prepared made
        obtain ⟨reply, rfl, rfl⟩ := Outcome.map_eq_ok.mp made
        exact ⟨⟨found, searched⟩, _, _, _, embedded, replied⟩

variable [Utterance ρ]

/-- The messages of a turn. -/
def turnMessages (message : Value) (reply : ρ) : List Message :=
  [⟨.user, message⟩, ⟨.assistant, Utterance.content reply⟩]

/-- The courses of a turn: how it ends, and the state that it leaves. -/
inductive Course (conversation : Conversation σ ρ) (message sessionId : Value)
    (scene : Scene (Conversing σ)) : Except Fault (TurnReport ρ) → ChatState → Prop
  /-- A fault comes before anything is changed. -/
  | early {fault : Fault} {after : ChatState} (same : scene.world.chat.Same after) :
      Course conversation message sessionId scene (.error fault) after
  /-- The embedding is no vector, and nothing was searched for. -/
  | unstored {fault : Fault} {after : ChatState} {value : Value} {reply : ρ}
      (prepares : conversation.Prepares message scene value reply)
      (noVector : Vector32.ofValue value = .error fault)
      (unsearched : scene.world.chat.memory.entries = [] ∨
        (Limit.ofValue conversation.topK).isNotPositive = .ok true)
      (gains : scene.world.chat.Gains after (scene.world.chat.registry.resolveId sessionId)
        (turnMessages message reply))
      (memory_eq : after.memory = scene.world.chat.memory) :
      Course conversation message sessionId scene (.error fault) after
  /-- The reply has no length. -/
  | unmeasured {fault : Fault} {after : ChatState} {value : Value} {reply : ρ} {vector : Vector32}
      (prepares : conversation.Prepares message scene value reply)
      (isVector : Vector32.ofValue value = .ok vector)
      (noLength : Utterance.length reply = .error fault)
      (gains : scene.world.chat.Gains after (scene.world.chat.registry.resolveId sessionId)
        (turnMessages message reply))
      (memory_eq : after.memory = scene.world.chat.memory.push ⟨message, vector⟩) :
      Course conversation message sessionId scene (.error fault) after
  /-- The turn is added, and reported. -/
  | whole {report : TurnReport ρ} {after : ChatState} {value : Value} {vector : Vector32}
      (prepares : conversation.Prepares message scene value report.response)
      (isVector : Vector32.ofValue value = .ok vector)
      (gains : scene.world.chat.Gains after (scene.world.chat.registry.resolveId sessionId)
        (turnMessages message report.response))
      (memory_eq : after.memory = scene.world.chat.memory.push ⟨message, vector⟩) :
      Course conversation message sessionId scene (.ok report) after

section Courses

variable {conversation : Conversation σ ρ} {message sessionId : Value}
  {scene after : Scene (Conversing σ)}

/-- **A turn takes one of its courses**, and keeps the registry sound. -/
theorem turn_course {outcome : Except Fault (TurnReport ρ)}
    (sound : scene.world.chat.registry.Sound)
    (string : (scene.world.chat.registry.resolveId sessionId).IsString)
    (turned : (conversation.turn message sessionId).perform scene = (outcome, after)) :
    conversation.Course message sessionId scene outcome after.world.chat ∧
      after.world.chat.registry.Sound := by
  have spec := Registry.getOrCreate_spec sound string
  cases seen : scene.world.chat.registry.openedView
    (scene.world.chat.registry.resolveId sessionId) with
  | error refusal =>
      rw [seen] at spec
      rw [perform_turn_of_unopened scene spec] at turned
      cases turned
      exact ⟨.early (.refl _), sound⟩
  | ok place =>
      rw [seen] at spec
      obtain ⟨handle, opened, created, opens⟩ := spec
      obtain ⟨outcome', inner, journal, prepared, owes⟩ := perform_prepare_cases conversation handle
        message ⟨⟨scene.world.inner, ⟨opened, scene.world.chat.memory⟩⟩, scene.journal⟩
      cases outcome' with
      | error refusal =>
          rw [perform_turn_of_unprepared scene created prepared] at turned
          cases turned
          exact ⟨.early (opens.same seen _), opens.sound⟩
      | ok turn =>
          -- nothing has changed so far: from here the turn is added before anything can fail
          have answers := owes turn rfl
          have prepares : conversation.Prepares message scene turn.embedding turn.response :=
            ⟨answers.searched, answers.answered⟩
          have gains := opens.gains string seen scene.world.chat.memory
          have sound' := opens.sound.addTurn handle message (Utterance.content turn.response)
          cases isVector : Vector32.ofValue turn.embedding with
          | error refusal =>
              have refused := scene.world.chat.memory.add_of_noVector isVector message
              rw [perform_turn_of_refused scene created prepared refused] at turned
              cases turned
              obtain ⟨found, searched⟩ := answers.searched
              have unsearched := scene.world.chat.memory.unsearched_of_search isVector searched
              exact ⟨.unstored prepares isVector unsearched (gains _ _ _) rfl, sound'⟩
          | ok vector =>
              have added := scene.world.chat.memory.add_of_isVector isVector message
              cases measured : Utterance.length turn.response with
              | error refusal =>
                  rw [perform_turn_of_unmeasured scene created prepared added measured] at turned
                  cases turned
                  exact ⟨.unmeasured prepares isVector measured (gains _ _ _) rfl, sound'⟩
              | ok length =>
                  rw [perform_turn_of_prepared scene created prepared added measured] at turned
                  cases turned
                  exact ⟨.whole prepares isVector (gains _ _ _) rfl, sound'⟩

/-- **A chat that fails leaves every history and the memory as they were**, unless its embedding is
no vector and was not searched for, or its reply has no length. -/
theorem chat_failure {fault : Fault} (sound : scene.world.chat.registry.Sound)
    (string : (scene.world.chat.registry.resolveId sessionId).IsString)
    (failed : (conversation.chat message sessionId).perform scene = (.error fault, after)) :
    conversation.Course message sessionId scene (.error fault) after.world.chat := by
  rcases turned : (conversation.turn message sessionId).perform scene with ⟨refusal | report, last⟩
  · rw [chat, perform_map, turned] at failed
    cases failed
    exact (turn_course sound string turned).1
  · rw [chat, perform_map, turned] at failed
    cases failed

end Courses

/-- A conversation that embeds a text as lists of different shapes. -/
def ragged : Conversation Unit where
  embed _ := pure (.list [.list [.integer 1], .list [.integer 2, .integer 3]])
  generate _ _ := pure "ok"
  topK := .integer 2
  maxTokens := .integer 512

/-- A conversation that replies with a number. -/
def numeral : Conversation Unit Value where
  embed _ := pure (.list [.integer 1])
  generate _ _ := pure (.integer 7)
  topK := .integer 2
  maxTokens := .integer 512

/-- The scene of a conversation that starts. -/
def opening : Scene (Conversing Unit) := ⟨⟨(), ⟨Registry.standard, .empty⟩⟩, .empty⟩

/-- A number as a reply has no length. -/
theorem numeral_failure :
    ∃ fault after, (numeral.chat (.text "hi") .null).perform opening = (.error fault, after) ∧
      numeral.Course (.text "hi") .null opening (.error fault) after.world.chat := by
  have failed : ∃ fault after,
      (numeral.chat (.text "hi") .null).perform opening = (.error fault, after) := ⟨_, _, rfl⟩
  obtain ⟨fault, after, failed⟩ := failed
  exact ⟨fault, after, failed, chat_failure (Registry.sound_empty _ _) trivial failed⟩

/-- Chats can fail and leave a turn: one with an embedding that is no vector while the memory is
empty, and one with a reply that has no length. -/
theorem chat_leaves_turns :
    (∃ fault after, (ragged.chat (.text "hi") .null).perform opening = (.error fault, after) ∧
        ¬ opening.world.chat.Same after.world.chat) ∧
      ∃ fault after, (numeral.chat (.text "hi") .null).perform opening = (.error fault, after) ∧
        ¬ opening.world.chat.Same after.world.chat := by
  have before : opening.world.chat.registry.history .null = .ok [] := rfl
  constructor
  · refine ⟨_, _, rfl, fun same => ?_⟩
    have unchanged := same.history_eq .null trivial
    rw [before] at unchanged
    cases unchanged
  · refine ⟨_, _, rfl, fun same => ?_⟩
    have unchanged := same.history_eq .null trivial
    rw [before] at unchanged
    cases unchanged

end Conversation

end RecallChat
