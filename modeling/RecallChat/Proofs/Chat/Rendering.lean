import RecallChat.Proofs.Chat.Isolation
import RecallChat.Proofs.Chat.Windows

/-!
# Pending messages

A prompt can include messages that are not added yet.  It is the prompt of the session to which they
are added one after the other (`Session.addAll`): the lines of the last messages of the history with
the pending ones after it, as many as the window holds.

A turn takes its prompt with the message of the user pending, and adds message and reply afterwards.
So the session's part of the prompt and the line of the reply are the session's lines after the turn,
as long as the window has room for both messages; in a full window the oldest ones are gone
(`prompt_anticipates`).
-/

set_option autoImplicit false

namespace RecallChat

/-! ## Messages added one after the other -/

namespace Session

/-- The session with messages added one after the other. -/
def addAll (session : Session) : List Message → Except Fault Session
  | [] => .ok session
  | message :: rest => do
    let (_, added) ← session.add (.text message.role.name) message.content
    added.addAll rest

/-- A message can be added again by its role's name and its content. -/
theorem add_message (session : Session) (message : Message) :
    session.add (.text message.role.name) message.content =
      .ok (message, session.push [message]) := by
  cases message with
  | mk role content => cases role <;> rfl

/-- Adding messages one after the other leaves the end of all of them in the window. -/
theorem exists_addAll (session : Session) (messages : List Message) :
    ∃ added, session.addAll messages = .ok added ∧ added.window = session.window ∧
      added.fit added.messages = session.fit (session.messages ++ messages) := by
  induction messages generalizing session with
  | nil => exact ⟨session, rfl, rfl, congrArg session.fit (List.append_nil _).symm⟩
  | cons message rest ih =>
      obtain ⟨added, all, window_eq, fit_eq⟩ := ih (session.push [message])
      refine ⟨added, ?_, window_eq, ?_⟩
      · rw [addAll, session.add_message message]
        exact all
      · calc
          added.fit added.messages =
              recent session.window.size
                (recent session.window.size (session.messages ++ [message]) ++ rest) := fit_eq
          _ = session.fit (session.messages ++ message :: rest) := by
              rw [recent_append_recent, List.append_assoc]
              rfl

/-- The prompt of a session once messages are added is the prompt with these messages pending. -/
theorem prompt_of_addAll {session added : Session} {pending : List Message}
    (all : session.addAll pending = .ok added) : added.prompt [] = session.prompt pending := by
  obtain ⟨same, all', _, fit_eq⟩ := session.exists_addAll pending
  rw [all] at all'
  cases all'
  unfold prompt
  rw [List.append_nil, fit_eq]

end Session

/-! ## Lines of messages -/

theorem Message.renderAll_append (messages more : List Message) :
    Message.renderAll (messages ++ more) = Message.renderAll messages ++ Message.renderAll more := by
  unfold Message.renderAll
  exact List.flatMap_append

/-- With room for two more messages, the last one adds its lines to those of the others. -/
theorem Message.renderAll_recent_of_room {size : Nat} {history : List Message}
    (first second : Message) (room : history.length + 2 ≤ size) :
    Message.renderAll (recent size (recent size (history ++ [first]) ++ [second])) =
      Message.renderAll (recent size (history ++ [first])) ++ Message.renderAll [second] := by
  have short : (history ++ [first]).length ≤ size := by
    rw [List.length_append, List.length_singleton]
    omega
  have short' : (history ++ [first] ++ [second]).length ≤ size := by
    rw [List.length_append, List.length_append, List.length_singleton, List.length_singleton]
    omega
  rw [recent_of_length_le short, recent_of_length_le short', Message.renderAll_append]

/-! ## Prompts of turns -/

namespace Conversation

open RecallChat.Action

variable {σ ρ : Type} {conversation : Conversation σ ρ} {message sessionId : Value}

/-- A prepared turn has the prompt of its session with the message pending, below what was
retrieved. -/
theorem prompt_of_prepare {handle : Handle} {prepared : PreparedTurn ρ}
    {scene after : Scene (Conversing σ)}
    (ready : (conversation.prepare handle message).perform scene = (.ok prepared, after)) :
    prepared.prompt = buildPrompt (prepared.retrieved.map Prod.fst)
      (scene.world.chat.registry.promptFor handle [⟨.user, message⟩]) := by
  rcases embedded : (conversation.embed message).perform (sceneOf Conversing.inner scene) with
    ⟨fault | value, middle⟩
  · rw [perform_prepare_of_unembedded scene handle embedded] at ready
    cases ready
  · cases searched : scene.world.chat.memory.search value (.ofValue conversation.topK) with
    | error fault =>
        rw [perform_prepare_of_unsearched scene handle embedded searched] at ready
        cases ready
    | ok retrieved =>
        rcases replied : (conversation.generate (buildPrompt (retrieved.map Prod.fst)
          (scene.world.chat.registry.promptFor handle [⟨.user, message⟩]))
          conversation.maxTokens).perform middle with ⟨outcome, last⟩
        rw [perform_prepare_of_embedded scene handle embedded searched replied] at ready
        obtain ⟨reply, _, rfl⟩ := Outcome.map_eq_ok.mp (congrArg Prod.fst ready)
        rfl

variable [Utterance ρ] {report : TurnReport ρ} {scene after : Scene (Conversing σ)}

/-- The prompt of a turn has the lines of the history and of the message, as many as the window of
the session holds. -/
theorem prompt_of_turn {size : Nat} {history : List Message}
    (sound : scene.world.chat.registry.Sound)
    (string : (scene.world.chat.registry.resolveId sessionId).IsString)
    (seen : scene.world.chat.registry.openedView
      (scene.world.chat.registry.resolveId sessionId) = .ok (size, history))
    (turned : (conversation.turn message sessionId).perform scene = (.ok report, after)) :
    report.prompt = buildPrompt (report.retrieved.map Prod.fst)
      (Message.renderAll (recent size (history ++ [⟨.user, message⟩]))) := by
  have spec := Registry.getOrCreate_spec sound string
  rw [seen] at spec
  obtain ⟨handle, opened, created, opens⟩ := spec
  rcases ready : (conversation.prepare handle message).perform
    ⟨⟨scene.world.inner, ⟨opened, scene.world.chat.memory⟩⟩, scene.journal⟩ with
    ⟨fault | prepared, middle⟩
  · rw [perform_turn_of_unprepared scene created ready] at turned
    cases turned
  · obtain ⟨last, ended, _, _⟩ := perform_turn_of_ready scene created ready
    rw [turned] at ended
    obtain ⟨_, _, measured⟩ := Outcome.bind_eq_ok.mp (congrArg Prod.fst ended).symm
    obtain ⟨_, _, reported⟩ := Outcome.bind_eq_ok.mp measured
    cases reported
    have prompted := prompt_of_prepare ready
    dsimp only at prompted
    rw [Registry.promptFor_of_view opens.found opens.view_self] at prompted
    exact prompted

/-- **A prompt with pending messages is the prompt after adding them**, and reading it changes
nothing.  A turn's own part of the prompt and its reply are the lines of its session afterwards where
the window has room for both messages, and always the last of these lines. -/
theorem prompt_anticipates (conversation : Conversation σ ρ) :
    (∀ (session : Session) (pending : List Message),
      (∃ added, session.addAll pending = .ok added ∧ session.prompt pending = added.prompt []) ∧
      session.prompt pending =
        Message.renderAll (recent session.window.size (session.messages ++ pending))) ∧
    (∀ (registry : Registry) (handle : Handle) (pending : List Message),
      (Registry.Operation.promptFor handle pending).perform registry =
        (.ok (.prompt ((registry.session handle).prompt pending)), registry)) ∧
    ∀ (message sessionId : Value) (scene after : Scene (Conversing σ)) (report : TurnReport ρ),
      scene.world.chat.registry.Sound →
      (scene.world.chat.registry.resolveId sessionId).IsString →
      (conversation.turn message sessionId).perform scene = (.ok report, after) →
      ∃ size history handle,
        scene.world.chat.registry.openedView (scene.world.chat.registry.resolveId sessionId) =
          .ok (size, history) ∧
        scene.world.chat.registry.history sessionId = .ok history ∧
        after.world.chat.registry.handle? (scene.world.chat.registry.resolveId sessionId) =
          some handle ∧
        let window := recent size (history ++ [⟨.user, message⟩])
        let reply : Message := ⟨.assistant, Utterance.content report.response⟩
        let rendering := after.world.chat.registry.promptFor handle []
        report.prompt = buildPrompt (report.retrieved.map Prod.fst) (Message.renderAll window) ∧
          rendering = Message.renderAll (recent size (window ++ [reply])) ∧
          (history.length + 2 ≤ size → rendering = Message.renderAll window ++
            (.ofString "assistant: " ++ reply.content.displayed ++ .ofString "\n")) := by
  refine ⟨fun session pending => ?_, fun _ _ _ => rfl, ?_⟩
  · obtain ⟨added, all, _, _⟩ := session.exists_addAll pending
    exact ⟨⟨added, all, (Session.prompt_of_addAll all).symm⟩, rfl⟩
  · intro message sessionId scene after report sound string turned
    obtain ⟨course, _⟩ := turn_course sound string turned
    cases course with
    | whole _ _ gains _ =>
        obtain ⟨size, history, seen, held⟩ := gains.view_self
        have past : scene.world.chat.registry.history sessionId = .ok history := by
          rw [Registry.history_of_view string, Registry.history_of_openedView seen]
        obtain ⟨handle, found⟩ := Registry.exists_handle_of_view held
        have lines := Registry.promptFor_of_view found held []
        have whole :
            recent size (recent size (history ++ turnMessages message report.response) ++ []) =
              recent size (recent size (history ++ [⟨.user, message⟩]) ++
                [⟨.assistant, Utterance.content report.response⟩]) := by
          rw [recent_append_recent, recent_append_recent, List.append_nil, List.append_assoc]
          rfl
        rw [whole] at lines
        refine ⟨size, history, handle, seen, past, found, prompt_of_turn sound string seen turned,
          lines, fun room => lines.trans ?_⟩
        rw [Message.renderAll_recent_of_room _ _ room]
        exact congrArg _ (List.flatMap_singleton _ _)

/-- A session whose window is full. -/
def crowded : Session where
  id := .text "s"
  window := ⟨2, false, by decide, by decide⟩
  messages := [⟨.user, .text "a"⟩, ⟨.assistant, .text "b"⟩]

/-- More pending messages than a window holds push out the first of themselves, and a turn in an empty
session adds the line of its reply. -/
theorem crowded_anticipates :
    ∃ report after, (constant.turn (.text "hi") .null).perform opening = (.ok report, after) ∧
      (∃ added, crowded.addAll [⟨.user, .text "c"⟩, ⟨.assistant, .text "d"⟩, ⟨.user, .text "e"⟩] =
          .ok added ∧ added.prompt [] = .ofString "assistant: d\nuser: e\n") ∧
      ∃ handle, after.world.chat.registry.handle? (.text "default") = some handle ∧
        after.world.chat.registry.promptFor handle [] =
          report.prompt ++ .ofString "assistant: ok\n" := by
  obtain ⟨report, after, turned, replied, unretrieved⟩ : ∃ report after,
      (constant.turn (.text "hi") .null).perform opening = (.ok report, after) ∧
        report.response = "ok" ∧ report.retrieved = [] := ⟨_, _, rfl, rfl, rfl⟩
  obtain ⟨anticipates, -, continues⟩ := prompt_anticipates constant
  obtain ⟨⟨added, all, same⟩, lines⟩ := anticipates crowded
    [⟨.user, .text "c"⟩, ⟨.assistant, .text "d"⟩, ⟨.user, .text "e"⟩]
  obtain ⟨size, history, handle, seen, _, found, prompted, _, room⟩ :=
    continues _ _ _ _ _ (Registry.sound_empty _ _) (by exact trivial) turned
  have fresh : (Except.ok (10, []) : Except Fault (Nat × List Message)) = .ok (size, history) := seen
  cases fresh
  rw [unretrieved] at prompted
  have rendered := room (by decide)
  rw [replied] at rendered
  refine ⟨report, after, turned, ⟨added, all, ?_⟩, handle, found, ?_⟩
  · rw [← same, lines]
    decide
  · rw [rendered, prompted]
    rfl

end Conversation

end RecallChat
