import RecallChat.Proofs.Chat.Exchange

/-!
# The law of a conversation

What follows from the exchanges of a conversation.  Every exchange obeys a law that looks at the
exchanges before it only (`Obeys`): a turn has a reply exactly when the embedder and the generator
both give something, its fault is theirs otherwise, and the prompt is made of the memories retrieved
among the earlier messages with replies and of the end of its own session's history.  The state
after a conversation is what its exchanges with replies have added (`Remembers`).

One exchange obeys the law and keeps what is remembered (`Remembers.exchange`), whatever the
sessions, the answers and the faults before it.  The main theorem is `converse_law`.
-/

set_option autoImplicit false

namespace RecallChat

/-! ## What exchanges leave -/

/-- The identifier that is meant: no identifier means the default one. -/
def resolved (defaultId : Value) : Value → Value
  | .null => defaultId
  | id => id

/-- The identifier that a call means. -/
def Call.session (call : Call) (defaultId : Value) : Value := resolved defaultId call.sessionId

theorem resolveId_eq_resolved (registry : Registry) (id : Value) :
    registry.resolveId id = resolved registry.defaultId id := rfl

namespace Exchange

/-- The messages that an exchange adds to the session of an identifier. -/
def messages (defaultId id : Value) (exchange : Exchange) : List Message :=
  match exchange.outcome with
  | .error _ => []
  | .ok report =>
    if Value.sameKey (exchange.call.session defaultId) id then
      [⟨.user, exchange.call.message⟩, ⟨.assistant, .text report.response⟩]
    else []

/-- The entry that an exchange adds to the memory. -/
def entry? (exchange : Exchange) : Option MemoryEntry :=
  match exchange.outcome, exchange.requests with
  | .ok _, .embedding _ (.ok value) :: _ =>
    (Vector32.ofValue value).toOption.map fun vector => ⟨exchange.call.message, vector⟩
  | _, _ => none

end Exchange

/-- All messages that exchanges have added to the session of an identifier. -/
def transcript (defaultId id : Value) (exchanges : List Exchange) : List Message :=
  exchanges.flatMap (Exchange.messages defaultId id)

/-- The history of a session after exchanges: the end of all that was added. -/
def historyAfter (size : Nat) (defaultId id : Value) (exchanges : List Exchange) : List Message :=
  recent size (transcript defaultId id exchanges)

/-- The memory after exchanges. -/
def memoryAfter (exchanges : List Exchange) : Memory := ⟨exchanges.filterMap Exchange.entry?⟩

/-- The prompt of a call after exchanges, with the given memories retrieved. -/
def promptAfter (size : Nat) (defaultId : Value) (exchanges : List Exchange) (call : Call)
    (retrieved : List (Value × Double)) : Text.CodePoints :=
  buildPrompt (retrieved.map Prod.fst) (Message.renderAll (recent size
    (historyAfter size defaultId (call.session defaultId) exchanges ++ [⟨.user, call.message⟩])))

theorem transcript_append (defaultId id : Value) (earlier later : List Exchange) :
    transcript defaultId id (earlier ++ later) =
      transcript defaultId id earlier ++ transcript defaultId id later :=
  List.flatMap_append

/-! ## The law -/

/-- What an exchange is, given the exchanges before it: the embedder failed, or the generator did,
or the turn has a reply. -/
inductive Obeys (topK : Int) (maxTokens : Value) (size : Nat) (defaultId : Value)
    (earlier : List Exchange) : Exchange → Prop
  | unembedded (call : Call) (fault : Fault) :
      Obeys topK maxTokens size defaultId earlier
        ⟨call, [.embedding call.message (.error fault)], .error fault⟩
  | unanswered (call : Call) (value : Value) (vector : Vector32)
      (isVector : Vector32.ofValue value = .ok vector) (retrieved : List (Value × Double))
      (retrieved_eq : retrieved = (memoryAfter earlier).top vector topK) (fault : Fault) :
      Obeys topK maxTokens size defaultId earlier
        ⟨call, [.embedding call.message (.ok value),
          .reply (promptAfter size defaultId earlier call retrieved) maxTokens (.error fault)],
          .error fault⟩
  | answered (call : Call) (value : Value) (vector : Vector32)
      (isVector : Vector32.ofValue value = .ok vector) (retrieved : List (Value × Double))
      (retrieved_eq : retrieved = (memoryAfter earlier).top vector topK) (response : String) :
      Obeys topK maxTokens size defaultId earlier
        ⟨call, [.embedding call.message (.ok value),
          .reply (promptAfter size defaultId earlier call retrieved) maxTokens (.ok response)],
          .ok ⟨response, call.session defaultId, retrieved,
            promptAfter size defaultId earlier call retrieved⟩⟩

/-- That a state is what exchanges leave of an empty one. -/
structure Remembers (size : Nat) (defaultId : Value) (exchanges : List Exchange)
    (chat : ChatState) : Prop where
  sound : chat.registry.Sound
  maxHistory_eq : chat.registry.maxHistory = .integer size
  defaultId_eq : chat.registry.defaultId = defaultId
  /-- A session holds the end of its transcript, and there is none only where nothing was added. -/
  view_eq : ∀ id : Value, id.IsString →
    chat.registry.view id = some (size, historyAfter size defaultId id exchanges) ∨
      chat.registry.view id = none ∧ transcript defaultId id exchanges = []
  memory_eq : chat.memory = memoryAfter exchanges

/-! ## One exchange -/

theorem remembers_empty (size : Nat) (defaultId : Value) :
    Remembers size defaultId [] ⟨.empty (.integer size) defaultId, .empty⟩ where
  sound := Registry.sound_empty _ _
  maxHistory_eq := rfl
  defaultId_eq := rfl
  view_eq := fun _ _ => .inr ⟨rfl, rfl⟩
  memory_eq := rfl

namespace Remembers

variable {size : Nat} {defaultId : Value} {exchanges : List Exchange} {chat : ChatState}

/-- Opening a session leaves what is remembered. -/
theorem opened (remembers : Remembers size defaultId exchanges chat) (positive : 0 < size)
    (bounded : size < 2 ^ 63) {sessionId : Value}
    (string : (chat.registry.resolveId sessionId).IsString) :
    ∃ handle opened, chat.registry.getOrCreate sessionId = .ok (handle, opened) ∧
      opened.handle? (chat.registry.resolveId sessionId) = some handle ∧
      opened.view (chat.registry.resolveId sessionId) =
        some (size, historyAfter size defaultId (chat.registry.resolveId sessionId) exchanges) ∧
      Remembers size defaultId exchanges ⟨opened, chat.memory⟩ := by
  have place : chat.registry.openedView (chat.registry.resolveId sessionId) =
      .ok (size, historyAfter size defaultId (chat.registry.resolveId sessionId) exchanges) := by
    unfold Registry.openedView
    rcases remembers.view_eq _ string with present | ⟨absent, nothing⟩
    · rw [present]
    · rw [absent, remembers.maxHistory_eq, Window.ofValue_integer positive bounded, historyAfter,
        nothing, recent_of_length_le (Nat.zero_le _)]
      rfl
  have spec := Registry.getOrCreate_spec remembers.sound string
  rw [place] at spec
  obtain ⟨handle, opened, created, opens⟩ := spec
  refine ⟨handle, opened, created, opens.found, opens.view_self, opens.sound,
    opens.maxHistory_eq.trans remembers.maxHistory_eq,
    opens.defaultId_eq.trans remembers.defaultId_eq, ?_, remembers.memory_eq⟩
  intro id string'
  by_cases same : id = chat.registry.resolveId sessionId
  · subst same
    exact .inl opens.view_self
  · have kept : opened.view id = chat.registry.view id := opens.view_other id string' same
    exact kept ▸ remembers.view_eq id string'

/-- An exchange without a reply leaves what is remembered. -/
theorem append_failed (remembers : Remembers size defaultId exchanges chat) (call : Call)
    (requests : List TurnRequest) (fault : Fault) :
    Remembers size defaultId (exchanges ++ [⟨call, requests, .error fault⟩]) chat := by
  have same : ∀ id, transcript defaultId id (exchanges ++ [⟨call, requests, .error fault⟩]) =
      transcript defaultId id exchanges := by
    intro id
    rw [transcript_append]
    exact List.append_nil _
  refine ⟨remembers.sound, remembers.maxHistory_eq, remembers.defaultId_eq, ?_, ?_⟩
  · intro id string
    rw [historyAfter, same]
    exact remembers.view_eq id string
  · rw [remembers.memory_eq, memoryAfter, memoryAfter, List.filterMap_append]
    exact congrArg Memory.mk (List.append_nil _).symm

/-- An exchange with a reply is remembered in its own session and in the memory. -/
theorem append_answered (remembers : Remembers size defaultId exchanges chat) {call : Call}
    {handle : Handle} (string : (call.session defaultId).IsString)
    (found : chat.registry.handle? (call.session defaultId) = some handle)
    (place : chat.registry.view (call.session defaultId) =
      some (size, historyAfter size defaultId (call.session defaultId) exchanges))
    {value : Value} {vector : Vector32} (isVector : Vector32.ofValue value = .ok vector)
    (rest : List TurnRequest) (report : TurnReport) :
    Remembers size defaultId
      (exchanges ++ [⟨call, .embedding call.message (.ok value) :: rest, .ok report⟩])
      ⟨chat.registry.addTurn handle call.message (.text report.response),
        chat.memory.push ⟨call.message, vector⟩⟩ := by
  refine ⟨remembers.sound.addTurn handle _ _, remembers.maxHistory_eq, remembers.defaultId_eq,
    ?_, ?_⟩
  · intro id string'
    by_cases same : id = call.session defaultId
    · subst same
      left
      rw [Registry.view_addTurn_self remembers.sound string found place, historyAfter,
        recent_append_recent, historyAfter, transcript_append]
      simp [transcript, Exchange.messages, Value.sameKey_self string]
    · have kept : (chat.registry.addTurn handle call.message (.text report.response)).view id =
          chat.registry.view id :=
        Registry.view_modify_other remembers.sound string string' found same
      have differs : ¬ Value.sameKey (call.session defaultId) id = true := by
        rw [Value.sameKey_iff string']
        exact fun equal => same equal.symm
      rw [kept, historyAfter, transcript_append]
      simpa [transcript, Exchange.messages, differs, historyAfter] using
        remembers.view_eq id string'
  · rw [remembers.memory_eq, memoryAfter, memoryAfter, List.filterMap_append]
    simp [Exchange.entry?, isVector, Memory.push, Except.toOption]

section Answers

variable {σ : Type} {conversation : Conversation σ} {call : Call} {scene : Scene (Conversing σ)}
  {handle : Handle} {opened : Registry}
  (created : scene.world.chat.registry.getOrCreate call.sessionId = .ok (handle, opened))
  (kept : Remembers size defaultId exchanges ⟨opened, scene.world.chat.memory⟩)
  {middle : Scene σ}

include created kept

/-- An exchange whose embedder fails obeys the law and is remembered. -/
theorem exchange_of_unembedded (topK : Int) {fault : Fault}
    (failed : (conversation.embed call.message).perform ⟨scene.world.inner, scene.journal⟩ =
      (.error fault, middle)) :
    Obeys topK conversation.maxTokens size defaultId exchanges
        (conversation.exchange call scene).1 ∧
      Remembers size defaultId (exchanges ++ [(conversation.exchange call scene).1])
        (conversation.exchange call scene).2.world.chat := by
  have unprepared := Conversation.perform_prepare_of_unembedded
    (⟨⟨⟨scene.world.inner, []⟩, ⟨opened, scene.world.chat.memory⟩⟩, scene.journal⟩ :
      Scene (Conversing (Recorded TurnRequest σ)))
    handle (Conversation.perform_recorded_embed [] failed)
  have turned := Conversation.perform_turn_of_unprepared
    (Action.sceneOf Conversing.unrecorded scene) created unprepared
  rw [Conversation.exchange_eq_recorded conversation call scene turned]
  exact ⟨.unembedded call fault, kept.append_failed call _ fault⟩

/-- An exchange whose message is embedded obeys the law and is remembered, whether the generator
fails or not. -/
theorem exchange_of_embedded {topK : Int} (whole : conversation.topK = .integer topK)
    (string : (call.session defaultId).IsString)
    (found : opened.handle? (call.session defaultId) = some handle)
    (place : opened.view (call.session defaultId) =
      some (size, historyAfter size defaultId (call.session defaultId) exchanges))
    {value : Value} {vector : Vector32} (isVector : Vector32.ofValue value = .ok vector)
    (embedded : (conversation.embed call.message).perform ⟨scene.world.inner, scene.journal⟩ =
      (.ok value, middle)) :
    Obeys topK conversation.maxTokens size defaultId exchanges
        (conversation.exchange call scene).1 ∧
      Remembers size defaultId (exchanges ++ [(conversation.exchange call scene).1])
        (conversation.exchange call scene).2.world.chat := by
  let retrieved := scene.world.chat.memory.top vector topK
  have searched : scene.world.chat.memory.search value (.ofValue conversation.topK) =
      .ok retrieved := by
    rw [whole]
    exact Memory.search_eq_top _ isVector topK
  have retrieved_eq : retrieved = (memoryAfter exchanges).top vector topK :=
    congrArg (Memory.top · vector topK) kept.memory_eq
  have prompted : buildPrompt (retrieved.map Prod.fst)
      (opened.promptFor handle [⟨.user, call.message⟩]) =
        promptAfter size defaultId exchanges call retrieved := by
    rw [Registry.promptFor_of_view found place]
    rfl
  rcases replied : (conversation.generate (promptAfter size defaultId exchanges call retrieved)
    conversation.maxTokens).perform middle with ⟨outcome, after⟩
  rw [← prompted] at replied
  have prepared := Conversation.perform_prepare_of_embedded
    (⟨⟨⟨scene.world.inner, []⟩, ⟨opened, scene.world.chat.memory⟩⟩, scene.journal⟩ :
      Scene (Conversing (Recorded TurnRequest σ)))
    handle (Conversation.perform_recorded_embed [] embedded) searched
    (Conversation.perform_recorded_generate _ replied)
  dsimp only at prepared
  rw [prompted] at prepared
  cases outcome with
  | error fault =>
      have turned := Conversation.perform_turn_of_unprepared
        (Action.sceneOf Conversing.unrecorded scene) created prepared
      rw [Conversation.exchange_eq_recorded conversation call scene turned]
      exact ⟨.unanswered call value vector isVector retrieved retrieved_eq fault,
        kept.append_failed call _ fault⟩
  | ok response =>
      have added := scene.world.chat.memory.add_of_isVector isVector call.message
      have turned := Conversation.perform_turn_of_prepared
        (Action.sceneOf Conversing.unrecorded scene) created prepared added rfl
      rw [Conversation.exchange_eq_recorded conversation call scene turned,
        kept.sound.session_id string found]
      exact ⟨.answered call value vector isVector retrieved retrieved_eq response,
        kept.append_answered string found place isVector _ _⟩

end Answers

/-- **An exchange obeys the law and is remembered.** -/
theorem exchange {σ : Type} {conversation : Conversation σ} {topK : Int}
    (whole : conversation.topK = .integer topK)
    (vectors : ∀ text scene value after, (conversation.embed text).perform scene =
      (.ok value, after) → ∃ vector, Vector32.ofValue value = .ok vector)
    (positive : 0 < size) (bounded : size < 2 ^ 63) {call : Call}
    (string : (call.session defaultId).IsString) {scene : Scene (Conversing σ)}
    (remembers : Remembers size defaultId exchanges scene.world.chat) :
    Obeys topK conversation.maxTokens size defaultId exchanges
        (conversation.exchange call scene).1 ∧
      Remembers size defaultId (exchanges ++ [(conversation.exchange call scene).1])
        (conversation.exchange call scene).2.world.chat := by
  have meant : scene.world.chat.registry.resolveId call.sessionId = call.session defaultId := by
    rw [resolveId_eq_resolved, remembers.defaultId_eq, Call.session]
  obtain ⟨handle, opened, created, found, place, kept⟩ :=
    remembers.opened positive bounded (meant.symm ▸ string)
  rw [meant] at found place
  rcases embedded : (conversation.embed call.message).perform
    ⟨scene.world.inner, scene.journal⟩ with ⟨fault | value, middle⟩
  · exact exchange_of_unembedded created kept topK embedded
  · obtain ⟨vector, isVector⟩ := vectors _ _ _ _ embedded
    exact exchange_of_embedded created kept whole string found place isVector embedded

end Remembers

/-! ## Whole conversations -/

section Whole

variable {σ : Type} {conversation : Conversation σ} {topK : Int} {size : Nat} {defaultId : Value}
  {calls : List Call} {exchanges : List Exchange}

/-- A conversation that goes on from earlier exchanges obeys the law and is remembered with them. -/
theorem Remembers.converse (whole : conversation.topK = .integer topK)
    (vectors : ∀ text scene value after, (conversation.embed text).perform scene =
      (.ok value, after) → ∃ vector, Vector32.ofValue value = .ok vector)
    (positive : 0 < size) (bounded : size < 2 ^ 63)
    (strings : ∀ call ∈ calls, (call.session defaultId).IsString) {earlier : List Exchange}
    {scene after : Scene (Conversing σ)}
    (remembers : Remembers size defaultId earlier scene.world.chat)
    (run : conversation.converse calls scene = (exchanges, after)) :
    exchanges.map Exchange.call = calls ∧
    (∀ before exchange later, exchanges = before ++ exchange :: later →
      Obeys topK conversation.maxTokens size defaultId (earlier ++ before) exchange) ∧
    Remembers size defaultId (earlier ++ exchanges) after.world.chat := by
  induction calls generalizing earlier scene exchanges with
  | nil =>
      cases run
      refine ⟨rfl, fun before exchange later none => ?_, (List.append_nil earlier).symm ▸ remembers⟩
      exact absurd none.symm (List.append_ne_nil_of_right_ne_nil before (List.cons_ne_nil _ _))
  | cons call rest ih =>
      obtain ⟨obeys, kept⟩ := remembers.exchange whole vectors positive bounded
        (strings call List.mem_cons_self)
      obtain ⟨rfl, rfl⟩ := Prod.mk.inj run
      obtain ⟨sameCalls, laws, last⟩ :=
        ih (fun other member => strings other (List.mem_cons_of_mem call member)) kept rfl
      rw [List.append_assoc] at last
      refine ⟨congrArg (call :: ·) sameCalls, ?_, last⟩
      intro before exchange later split
      cases before with
      | nil =>
          obtain ⟨rfl, -⟩ := List.cons.inj split
          rw [List.append_nil]
          exact obeys
      | cons first before =>
          obtain ⟨rfl, split'⟩ := List.cons.inj split
          have law := laws before exchange later split'
          rw [List.append_assoc] at law
          exact law

/-- What is remembered of a session is its history. -/
theorem Remembers.history {chat : ChatState}
    (remembers : Remembers size defaultId exchanges chat) {id : Value}
    (string : (resolved defaultId id).IsString) :
    chat.registry.history id =
      .ok (historyAfter size defaultId (resolved defaultId id) exchanges) := by
  have meant : chat.registry.resolveId id = resolved defaultId id := by
    rw [resolveId_eq_resolved, remembers.defaultId_eq]
  rw [Registry.history_of_view (meant.symm ▸ string), meant]
  rcases remembers.view_eq _ string with present | ⟨absent, nothing⟩
  · rw [present]
    rfl
  · rw [absent, historyAfter, nothing, recent_of_length_le (Nat.zero_le _)]
    rfl

/-- **The law of a conversation.**  Starting with nothing, every exchange obeys the law given the
exchanges before it, and the state afterwards is what the exchanges have added: under every
identifier the end of its transcript, and in the memory the messages with replies of all sessions,
in the order of the calls. -/
theorem converse_law (conversation : Conversation σ) (whole : conversation.topK = .integer topK)
    (vectors : ∀ text scene value after, (conversation.embed text).perform scene =
      (.ok value, after) → ∃ vector, Vector32.ofValue value = .ok vector)
    (positive : 0 < size) (bounded : size < 2 ^ 63)
    (strings : ∀ call ∈ calls, (call.session defaultId).IsString) (inner : σ) (journal : Journal)
    {after : Scene (Conversing σ)}
    (run : conversation.converse calls
      ⟨⟨inner, ⟨.empty (.integer size) defaultId, .empty⟩⟩, journal⟩ = (exchanges, after)) :
    exchanges.map Exchange.call = calls ∧
    (∀ earlier exchange later, exchanges = earlier ++ exchange :: later →
      Obeys topK conversation.maxTokens size defaultId earlier exchange) ∧
    (∀ id, (resolved defaultId id).IsString → after.world.chat.registry.history id =
      .ok (historyAfter size defaultId (resolved defaultId id) exchanges)) ∧
    after.world.chat.memory = memoryAfter exchanges := by
  obtain ⟨sameCalls, laws, remembers⟩ :=
    (remembers_empty size defaultId).converse whole vectors positive bounded strings run
  exact ⟨sameCalls, laws, fun _ string => remembers.history string, remembers.memory_eq⟩

/-- Two sessions that take turns with a window of three messages. -/
theorem constant_law :
    ∃ exchanges after,
      Conversation.constant.converse
          [⟨.text "a", .null⟩, ⟨.text "b", .text "s"⟩, ⟨.text "c", .text "default"⟩]
          ⟨⟨(), ⟨.empty (.integer (3 : Nat)) (.text "default"), .empty⟩⟩, .empty⟩ =
        (exchanges, after) ∧
      exchanges.map Exchange.call =
        [⟨.text "a", .null⟩, ⟨.text "b", .text "s"⟩, ⟨.text "c", .text "default"⟩] ∧
      (∀ earlier exchange later, exchanges = earlier ++ exchange :: later →
        Obeys 3 .null 3 (.text "default") earlier exchange) ∧
      (∀ id, (resolved (.text "default") id).IsString → after.world.chat.registry.history id =
        .ok (historyAfter 3 (.text "default") (resolved (.text "default") id) exchanges)) ∧
      after.world.chat.memory = memoryAfter exchanges := by
  have vectors : ∀ (text : Value) (scene : Scene Unit) (value : Value) (after : Scene Unit),
      (Conversation.constant.embed text).perform scene = (.ok value, after) →
        ∃ vector, Vector32.ofValue value = .ok vector := by
    intro text scene value after embedded
    cases embedded
    exact ⟨[Floating.ofInt .single 1], rfl⟩
  have strings : ∀ call ∈ ([⟨.text "a", .null⟩, ⟨.text "b", .text "s"⟩,
      ⟨.text "c", .text "default"⟩] : List Call), (call.session (.text "default")).IsString := by
    simp [Call.session, resolved, Value.IsString]
  rcases run : Conversation.constant.converse
    [⟨.text "a", .null⟩, ⟨.text "b", .text "s"⟩, ⟨.text "c", .text "default"⟩]
    ⟨⟨(), ⟨.empty (.integer (3 : Nat)) (.text "default"), .empty⟩⟩, .empty⟩ with ⟨exchanges, after⟩
  exact ⟨exchanges, after, rfl, converse_law Conversation.constant rfl vectors (by decide)
    (by decide) strings () .empty run⟩

/-- A window of more messages than can be counted is refused, so a turn can fail although the
embedder and the generator would both give something. -/
theorem constant_unlawful :
    ¬ ∀ earlier exchange later,
      (Conversation.constant.converse [⟨.text "hi", .null⟩]
        ⟨⟨(), ⟨.empty (.integer (2 ^ 63)) (.text "default"), .empty⟩⟩, .empty⟩).1 =
          earlier ++ exchange :: later →
      Obeys 3 .null (2 ^ 63) (.text "default") earlier exchange := by
  intro law
  have run : (Conversation.constant.converse [⟨.text "hi", .null⟩]
      ⟨⟨(), ⟨.empty (.integer (2 ^ 63)) (.text "default"), .empty⟩⟩, .empty⟩).1 =
        [⟨⟨.text "hi", .null⟩, [], .error (.tooLarge "integer too large for a size")⟩] := by
    rfl
  cases law [] _ [] run

end Whole

end RecallChat
