import RecallChat.Proofs.Chat.Sessions

/-!
# Windows over logs

A registry is used by calls: sessions are fetched, messages are added to a session that was just
fetched, prompts and histories are read, and records are restored.  Calls can fail.  Everything that
was ever added to an identifier is its log, which a restored record begins anew (`logAfter`).

Whatever the calls, every session holds the end of the log of its identifier, as far as its window
goes; and every call leaves other identifiers alone, and leaves everything alone when it fails
(`run_windows`).  One call keeps this (`Keeps.event`), and so do all calls one after the other
(`Keeps.run`).
-/

set_option autoImplicit false

namespace RecallChat

/-! ## Records -/

namespace SessionRecord

/-- Whether a record is about an identifier. -/
def names (record : SessionRecord) (id : Value) : Bool :=
  match record.sessionId with
  | some own => Value.sameKey own id
  | none => false

/-- All messages of a record; there are none where one of them is refused. -/
def log (record : SessionRecord) : List Message :=
  match Session.itemsOf (record.messages.getD (.list [])) >>= (·.mapM Session.messageOfValue) with
  | .ok messages => messages
  | .error _ => []

/-- The last of several records that is about an identifier. -/
def last? (id : Value) (records : List SessionRecord) : Option SessionRecord :=
  (records.filter (·.names id)).getLast?

theorem names_iff {record : SessionRecord} {id : Value} (string : id.IsString) :
    record.names id = true ↔ record.sessionId = some id := by
  unfold names
  cases record.sessionId with
  | none => simp
  | some own => simp [Value.sameKey_iff string]

theorem last?_cons (id : Value) (record : SessionRecord) (rest : List SessionRecord) :
    last? id (record :: rest) =
      if record.names id then some ((last? id rest).getD record) else last? id rest := by
  unfold last?
  rw [List.filter_cons]
  by_cases own : record.names id = true
  · rw [if_pos own, if_pos own, List.getLast?_cons]
  · rw [if_neg own, if_neg own]

end SessionRecord

namespace Session

/-- Adding messages twice is adding all of them. -/
theorem push_push (session : Session) (messages more : List Message) :
    (session.push messages).push more = session.push (messages ++ more) := by
  unfold push fit
  simp only [recent_append_recent, List.append_assoc]

/-- The session of a record holds the end of its messages. -/
theorem ofRecord_eq_ok {record : SessionRecord} {session : Session}
    (made : ofRecord record = .ok session) :
    record.sessionId = some session.id ∧ session.Sound ∧
      session.messages = recent session.window.size record.log := by
  unfold ofRecord at made
  cases named : record.sessionId with
  | none =>
      rw [named] at made
      cases made
  | some id =>
      rw [named] at made
      obtain ⟨fresh, opened, made⟩ := Outcome.bind_eq_ok.mp made
      obtain ⟨items, listed, made⟩ := Outcome.bind_eq_ok.mp made
      obtain ⟨messages, read, made⟩ := Outcome.bind_eq_ok.mp made
      obtain ⟨window, proper, rfl⟩ := Outcome.map_eq_ok.mp opened
      cases made
      have whole : record.log = messages := by
        unfold SessionRecord.log
        rw [Outcome.bind_eq_ok.mpr ⟨items, listed, read⟩]
      refine ⟨rfl, ?_, ?_⟩
      · apply Session.Sound.push
        exact ⟨Nat.zero_le _, Window.size_of_isTruthValue proper⟩
      · rw [whole]
        rfl

end Session

namespace Registry

/-! ## Calls -/

/-- A call of a registry.  Messages are added to the session of a handle. -/
inductive Operation where
  | getOrCreate (id : Value)
  | addMessage (handle : Handle) (role content : Value)
  | addTurn (handle : Handle) (user assistant : Value)
  | promptFor (handle : Handle) (pending : List Message)
  | history (id : Value)
  | toRecords
  | restore (records : List SessionRecord)

/-- What a call gives. -/
inductive Answer where
  | handle (handle : Handle)
  | message (message : Message)
  | nothing
  | prompt (lines : Text.CodePoints)
  | messages (messages : List Message)
  | records (records : List SessionRecord)
  | count (number : Nat)

/-- A call that was made: what it was, how it ended, and the registry before and after it. -/
structure Event where
  before : Registry
  operation : Operation
  outcome : Except Fault Answer
  after : Registry

namespace Operation

/-- The outcome of a call and the registry it leaves. -/
def perform (registry : Registry) : Operation → Except Fault Answer × Registry
  | getOrCreate id =>
    match registry.getOrCreate id with
    | .ok (handle, opened) => (.ok (.handle handle), opened)
    | .error fault => (.error fault, registry)
  | addMessage handle role content =>
    match registry.addMessage handle role content with
    | .ok (message, added) => (.ok (.message message), added)
    | .error fault => (.error fault, registry)
  | addTurn handle user assistant => (.ok .nothing, registry.addTurn handle user assistant)
  | promptFor handle pending => (.ok (.prompt (registry.promptFor handle pending)), registry)
  | history id => ((registry.history id).map .messages, registry)
  | toRecords => (.ok (.records registry.toRecords), registry)
  | restore records =>
    match registry.restore records with
    | (outcome, restored) => (outcome.map .count, restored)

/-- A call as an event. -/
def event (registry : Registry) (operation : Operation) : Event :=
  ⟨registry, operation, (operation.perform registry).1, (operation.perform registry).2⟩

/-- The handle of the session that a call adds messages to. -/
def target? : Operation → Option Handle
  | addMessage handle _ _ => some handle
  | addTurn handle _ _ => some handle
  | _ => none

/-- That a call creates sessions under texts only; records may have no identifier at all. -/
def Textual (registry : Registry) : Operation → Prop
  | getOrCreate id => (registry.resolveId id).IsString
  | restore records => ∀ record ∈ records, ∀ id, record.sessionId = some id → id.IsString
  | _ => True

end Operation

namespace Event

/-- The handle that a call has fetched. -/
def fetched? (event : Event) : Option Handle :=
  match event.operation, event.outcome with
  | .getOrCreate _, .ok (.handle handle) => some handle
  | _, _ => none

/-- The log of an identifier after a call: what the call has added to its session, or what the last
record that it has restored there holds. -/
def log (id : Value) (log : List Message) (event : Event) : List Message :=
  match event.operation, event.outcome with
  | .addMessage handle role content, .ok _ =>
    if Value.sameKey (event.before.session handle).id id then
      log ++ (Message.make role content).toOption.toList
    else log
  | .addTurn handle user assistant, .ok _ =>
    if Value.sameKey (event.before.session handle).id id then
      log ++ [⟨.user, user⟩, ⟨.assistant, assistant⟩]
    else log
  | .restore records, .ok _ => ((SessionRecord.last? id records).map SessionRecord.log).getD log
  | _, _ => log

/-- That a call is about an identifier. -/
def Concerns (event : Event) (id : Value) : Prop :=
  match event.operation with
  | .getOrCreate asked => event.before.resolveId asked = id
  | .addMessage handle _ _ => (event.before.session handle).id = id
  | .addTurn handle _ _ => (event.before.session handle).id = id
  | .restore records => ∃ record ∈ records, record.sessionId = some id
  | _ => False

end Event

/-- The events of calls made one after the other, and the registry after all of them. -/
def run : List Operation → Registry → List Event × Registry
  | [], registry => ([], registry)
  | operation :: rest, registry =>
    let event := operation.event registry
    let (others, last) := run rest event.after
    (event :: others, last)

/-- All messages that were added to an identifier since the last record that was restored there. -/
def logAfter (id : Value) (events : List Event) : List Message := events.foldl (Event.log id) []

/-- That messages are only added to the session that the call just before has fetched. -/
def FetchedFirst : Option Handle → List Event → Prop
  | _, [] => True
  | fetched, event :: rest =>
    (∀ handle, event.operation.target? = some handle → fetched = some handle) ∧
      FetchedFirst event.fetched? rest

/-! ## Keeping logs -/

/-- That a sound registry holds the end of every log, and that nothing was logged where it holds
nothing. -/
structure Keeps (log : Value → List Message) (registry : Registry) : Prop where
  sound : registry.Sound
  view_eq : ∀ id : Value, id.IsString →
    (∃ size, registry.view id = some (size, recent size (log id))) ∨
      registry.view id = none ∧ log id = []

/-- That a handle leads to a registered session. -/
def Leads (registry : Registry) (handle : Handle) : Prop :=
  ∃ id : Value, id.IsString ∧ registry.handle? id = some handle

/-- What a call does to a registry that keeps logs. -/
structure Event.Lawful (log : Value → List Message) (event : Event) : Prop where
  keeps : Keeps (fun id => event.log id (log id)) event.after
  unchanged : ∀ fault, event.outcome = .error fault → event.after = event.before
  view_other : ∀ id : Value, id.IsString → ¬ event.Concerns id →
    event.after.view id = event.before.view id
  fetched : ∀ handle, event.fetched? = some handle → event.after.Leads handle
  defaultId_eq : event.after.defaultId = event.before.defaultId

section Steps

variable {registry after : Registry} {log log' : Value → List Message} {id : Value}

theorem keeps_empty (maxHistory defaultId : Value) :
    Keeps (fun _ => []) (empty maxHistory defaultId) where
  sound := sound_empty maxHistory defaultId
  view_eq := fun _ _ => .inr ⟨rfl, rfl⟩

/-- Where nothing else changes, one identifier can be looked at alone. -/
theorem Keeps.update (keeps : Keeps log registry) (id : Value) (size : Nat)
    (sound : after.Sound) (view_self : after.view id = some (size, recent size (log' id)))
    (view_other : ∀ other : Value, other.IsString → other ≠ id →
      after.view other = registry.view other)
    (log_other : ∀ other : Value, other.IsString → other ≠ id → log' other = log other) :
    Keeps log' after := by
  refine ⟨sound, fun other string => ?_⟩
  by_cases same : other = id
  · subst same
    exact .inl ⟨size, view_self⟩
  · rw [view_other other string same, log_other other string same]
    exact keeps.view_eq other string

/-- A call that changes nothing keeps all logs as they are. -/
theorem Keeps.unchanged (keeps : Keeps log registry) (operation : Operation)
    (outcome : Except Fault Answer)
    (unfetched : (Event.mk registry operation outcome registry).fetched? = none)
    (unlogged : ∀ id, (Event.mk registry operation outcome registry).log id (log id) = log id) :
    Event.Lawful log ⟨registry, operation, outcome, registry⟩ where
  keeps := by
    simp only [unlogged]
    exact keeps
  unchanged := fun _ _ => rfl
  view_other := fun _ _ _ => rfl
  fetched := by
    intro handle found
    rw [unfetched] at found
    cases found
  defaultId_eq := rfl

/-- Fetching a session keeps all logs. -/
theorem Keeps.getOrCreate (keeps : Keeps log registry) {asked : Value}
    (string : (registry.resolveId asked).IsString) :
    Event.Lawful log ((Operation.getOrCreate asked).event registry) := by
  have spec := getOrCreate_spec keeps.sound string
  cases place : registry.openedView (registry.resolveId asked) with
  | error fault =>
      rw [place] at spec
      have same : (Operation.getOrCreate asked).event registry =
          ⟨registry, .getOrCreate asked, .error fault, registry⟩ := by
        simp only [Operation.event, Operation.perform, spec]
      rw [same]
      exact keeps.unchanged _ _ rfl fun _ => rfl
  | ok place' =>
      rw [place] at spec
      obtain ⟨handle, opened, created, opens⟩ := spec
      have same : (Operation.getOrCreate asked).event registry =
          ⟨registry, .getOrCreate asked, .ok (.handle handle), opened⟩ := by
        simp only [Operation.event, Operation.perform, created]
      rw [same]
      have seen : ∃ size, place' = (size, recent size (log (registry.resolveId asked))) := by
        rcases keeps.view_eq _ string with ⟨size, present⟩ | ⟨absent, nothing⟩
        · rw [openedView, present] at place
          exact ⟨size, (Except.ok.inj place).symm⟩
        · rw [openedView, absent] at place
          obtain ⟨window, _, made⟩ := Outcome.map_eq_ok.mp place
          refine ⟨window.size, ?_⟩
          rw [nothing, recent_of_length_le (Nat.zero_le _), made]
      obtain ⟨size, rfl⟩ := seen
      constructor
      case keeps =>
        exact keeps.update _ size opens.sound opens.view_self opens.view_other fun _ _ _ => rfl
      case unchanged =>
        intro fault failed
        cases failed
      case view_other =>
        intro other string' apart
        exact opens.view_other other string' fun equal => apart equal.symm
      case fetched =>
        intro handle' found
        cases found
        exact ⟨_, string, opens.found⟩
      case defaultId_eq => exact opens.defaultId_eq

/-- Adding messages to a registered session adds them to the log of its identifier. -/
theorem Keeps.push (keeps : Keeps log registry) {handle : Handle} (leads : registry.Leads handle)
    {operation : Operation} {answer : Answer} (messages : List Message)
    (about : ∀ id, (Event.mk registry operation (.ok answer)
        (registry.modify handle (·.push messages))).Concerns id ↔
      (registry.session handle).id = id)
    (unfetched : (Event.mk registry operation (.ok answer)
        (registry.modify handle (·.push messages))).fetched? = none)
    (logged : ∀ id, (Event.mk registry operation (.ok answer)
        (registry.modify handle (·.push messages))).log id (log id) =
      if Value.sameKey (registry.session handle).id id then log id ++ messages else log id) :
    Event.Lawful log ⟨registry, operation, .ok answer,
      registry.modify handle (·.push messages)⟩ := by
  obtain ⟨own, string, found⟩ := leads
  have named : (registry.session handle).id = own := keeps.sound.session_id string found
  have seen := view_of_handle? found
  have kept : ∃ size, registry.view own = some (size, recent size (log own)) := by
    rcases keeps.view_eq own string with present | ⟨absent, _⟩
    · exact present
    · rw [absent] at seen
      cases seen
  obtain ⟨size, present⟩ := kept
  rw [present] at seen
  obtain ⟨size_eq, messages_eq⟩ := Prod.mk.inj (Option.some.inj seen)
  have other (asked : Value) (string' : asked.IsString) (ne : asked ≠ own) :
      (registry.modify handle (·.push messages)).view asked = registry.view asked :=
    view_modify_other keeps.sound string string' found ne
  constructor
  case keeps =>
    refine keeps.update own size ?_ ?_ other ?_
    · exact keeps.sound.modify (fun _ => rfl) fun _ proper => proper.push messages
    · rw [view_modify_self keeps.sound string found, logged, named,
        if_pos (Value.sameKey_self string)]
      unfold Session.push Session.fit
      dsimp only
      rw [← messages_eq, ← size_eq, recent_append_recent]
    · intro asked string' ne
      have differs : ¬ Value.sameKey own asked = true := by
        rw [Value.sameKey_iff string']
        exact fun equal => ne equal.symm
      rw [logged, named, if_neg differs]
  case unchanged =>
    intro fault failed
    cases failed
  case view_other =>
    intro asked string' apart
    apply other asked string'
    rintro rfl
    exact apart ((about asked).mpr named)
  case fetched =>
    intro handle' fetched
    rw [unfetched] at fetched
    cases fetched
  case defaultId_eq => rfl

theorem Keeps.addMessage (keeps : Keeps log registry) {handle : Handle}
    (leads : registry.Leads handle) (role content : Value) :
    Event.Lawful log ((Operation.addMessage handle role content).event registry) := by
  cases made : Message.make role content with
  | error fault =>
      have same : (Operation.addMessage handle role content).event registry =
          ⟨registry, .addMessage handle role content, .error fault, registry⟩ := by
        simp only [Operation.event, Operation.perform, Registry.addMessage, made, Except.map]
      rw [same]
      exact keeps.unchanged _ _ rfl fun _ => rfl
  | ok message =>
      have same : (Operation.addMessage handle role content).event registry =
          ⟨registry, .addMessage handle role content, .ok (.message message),
            registry.modify handle (·.push [message])⟩ := by
        simp only [Operation.event, Operation.perform, Registry.addMessage, made, Except.map]
      rw [same]
      refine keeps.push leads [message] (fun _ => Iff.rfl) rfl fun id => ?_
      simp only [Event.log, made, Except.toOption, Option.toList_some]

theorem Keeps.addTurn (keeps : Keeps log registry) {handle : Handle}
    (leads : registry.Leads handle) (user assistant : Value) :
    Event.Lawful log ((Operation.addTurn handle user assistant).event registry) := by
  have both : registry.addTurn handle user assistant =
      registry.modify handle (·.push [⟨.user, user⟩, ⟨.assistant, assistant⟩]) := by
    unfold Registry.addTurn
    simp only [Session.push_push, List.cons_append, List.nil_append]
  have same : (Operation.addTurn handle user assistant).event registry =
      ⟨registry, .addTurn handle user assistant, .ok .nothing,
        registry.modify handle (·.push [⟨.user, user⟩, ⟨.assistant, assistant⟩])⟩ := by
    simp only [Operation.event, Operation.perform, both]
  rw [same]
  exact keeps.push leads _ (fun _ => Iff.rfl) rfl fun _ => rfl

/-- Registering the sessions of records keeps the logs that the records begin. -/
theorem Keeps.registerAll (keeps : Keeps log registry) {records : List SessionRecord}
    {sessions : List Session} (made : records.mapM Session.ofRecord = .ok sessions)
    (strings : ∀ record ∈ records, ∀ id, record.sessionId = some id → id.IsString) :
    ∃ restored, registry.registerAll sessions = (.ok (), restored) ∧
      Keeps (fun id => ((SessionRecord.last? id records).map SessionRecord.log).getD (log id))
        restored ∧
      (∀ id : Value, id.IsString → (∀ record ∈ records, record.sessionId ≠ some id) →
        restored.view id = registry.view id) ∧
      restored.defaultId = registry.defaultId := by
  induction records generalizing sessions registry log with
  | nil =>
      cases made
      exact ⟨registry, rfl, keeps, fun _ _ _ => rfl, rfl⟩
  | cons record rest ih =>
      rw [List.mapM_cons] at made
      obtain ⟨session, first, made⟩ := Outcome.bind_eq_ok.mp made
      obtain ⟨others, later, made⟩ := Outcome.bind_eq_ok.mp made
      cases made
      obtain ⟨named, proper, messages_eq⟩ := Session.ofRecord_eq_ok first
      have string := strings record List.mem_cons_self session.id named
      have usable : key session.id = .ok session.id := if_pos (Value.isHashable_of_isString string)
      have own (asked : Value) (string' : asked.IsString) :
          record.names asked = true ↔ asked = session.id := by
        rw [SessionRecord.names_iff string', named, Option.some.injEq, eq_comm]
      have begun : Keeps (fun id => if record.names id then record.log else log id)
          (registry.register session) := by
        refine keeps.update session.id session.window.size
          (keeps.sound.register string proper) ?_ ?_ ?_
        · rw [view_register_self string, if_pos ((own _ string).mpr rfl), messages_eq]
        · exact fun other string' ne => view_register_other keeps.sound string string' ne
        · intro other string' ne
          exact if_neg fun same => ne ((own other string').mp same)
      obtain ⟨restored, all, kept, view_other, defaultId_eq⟩ := ih begun later
        fun other member => strings other (List.mem_cons_of_mem record member)
      refine ⟨restored, ?_, ?_, ?_, defaultId_eq⟩
      · rw [Registry.registerAll, usable]
        exact all
      · have same : ∀ id, ((SessionRecord.last? id (record :: rest)).map SessionRecord.log).getD
              (log id) =
            ((SessionRecord.last? id rest).map SessionRecord.log).getD
              (if record.names id then record.log else log id) := by
          intro id
          rw [SessionRecord.last?_cons]
          by_cases about : record.names id = true
          · rw [if_pos about, if_pos about]
            cases SessionRecord.last? id rest <;> rfl
          · rw [if_neg about, if_neg about]
        simp only [same]
        exact kept
      · intro id string' absent
        have ne : id ≠ session.id := by
          rintro rfl
          exact absent record List.mem_cons_self named
        rw [view_other id string' fun other member =>
          absent other (List.mem_cons_of_mem record member),
          view_register_other keeps.sound string string' ne]

/-- Restoring records keeps all logs and the ones that the records begin, or changes nothing. -/
theorem Keeps.restore (keeps : Keeps log registry) {records : List SessionRecord}
    (strings : ∀ record ∈ records, ∀ id, record.sessionId = some id → id.IsString) :
    Event.Lawful log ((Operation.restore records).event registry) := by
  cases made : records.mapM Session.ofRecord with
  | error fault =>
      have same : (Operation.restore records).event registry =
          ⟨registry, .restore records, .error fault, registry⟩ := by
        simp only [Operation.event, Operation.perform, Registry.restore, made, Except.map]
      rw [same]
      exact keeps.unchanged _ _ rfl fun _ => rfl
  | ok sessions =>
      obtain ⟨restored, all, kept, view_other, defaultId_eq⟩ := keeps.registerAll made strings
      have same : (Operation.restore records).event registry =
          ⟨registry, .restore records, .ok (.count sessions.length), restored⟩ := by
        simp only [Operation.event, Operation.perform, Registry.restore, made, all, Except.map]
      rw [same]
      constructor
      case keeps => exact kept
      case unchanged =>
        intro fault failed
        cases failed
      case view_other =>
        intro id string apart
        apply view_other id string
        intro record member named
        exact apart ⟨record, member, named⟩
      case fetched =>
        intro handle found
        cases found
      case defaultId_eq => exact defaultId_eq

/-- **One call keeps the logs.** -/
theorem Keeps.event (keeps : Keeps log registry) {operation : Operation}
    (textual : operation.Textual registry)
    (leads : ∀ handle, operation.target? = some handle → registry.Leads handle) :
    Event.Lawful log (operation.event registry) := by
  cases operation with
  | getOrCreate id => exact keeps.getOrCreate textual
  | addMessage handle role content => exact keeps.addMessage (leads handle rfl) role content
  | addTurn handle user assistant => exact keeps.addTurn (leads handle rfl) user assistant
  | promptFor handle pending => exact keeps.unchanged _ _ rfl fun _ => rfl
  | history id => exact keeps.unchanged _ _ rfl fun _ => rfl
  | toRecords => exact keeps.unchanged _ _ rfl fun _ => rfl
  | restore records => exact keeps.restore textual

end Steps

/-! ## All calls -/

section Runs

variable {operations : List Operation} {events : List Event} {registry last : Registry}
  {log : Value → List Message}

theorem Operation.Textual.of_defaultId_eq {operation : Operation} {after : Registry}
    (textual : operation.Textual registry) (same : after.defaultId = registry.defaultId) :
    operation.Textual after := by
  cases operation with
  | getOrCreate id =>
      unfold Textual resolveId at textual ⊢
      rw [same]
      exact textual
  | _ => exact textual

/-- **Calls one after the other keep the logs**, and each of them is lawful. -/
theorem Keeps.run (keeps : Keeps log registry) {fetched : Option Handle}
    (leads : ∀ handle, fetched = some handle → registry.Leads handle)
    (textual : ∀ operation ∈ operations, operation.Textual registry)
    (ran : Registry.run operations registry = (events, last))
    (first : FetchedFirst fetched events) :
    Keeps (fun id => events.foldl (Event.log id) (log id)) last ∧
      ∀ event ∈ events, ∃ logged, Event.Lawful logged event := by
  induction operations generalizing registry events log fetched with
  | nil =>
      cases ran
      refine ⟨keeps, fun event member => ?_⟩
      cases member
  | cons operation rest ih =>
      obtain ⟨rfl, rfl⟩ := Prod.mk.inj ran
      obtain ⟨target, first'⟩ := first
      have lawful := keeps.event (textual operation List.mem_cons_self)
        fun handle found => leads handle (target handle found)
      obtain ⟨kept, others⟩ := ih lawful.keeps lawful.fetched
        (fun other member => (textual other (List.mem_cons_of_mem operation member)).of_defaultId_eq
          lawful.defaultId_eq) rfl first'
      refine ⟨kept, fun event member => ?_⟩
      rcases List.mem_cons.mp member with rfl | later
      · exact ⟨log, lawful⟩
      · exact others event later

/-- An event is what its call does to the registry before it. -/
theorem event_of_mem_run (ran : Registry.run operations registry = (events, last)) :
    ∀ event ∈ events, event = event.operation.event event.before := by
  induction operations generalizing registry events with
  | nil =>
      cases ran
      intro event member
      cases member
  | cons operation rest ih =>
      obtain ⟨rfl, rfl⟩ := Prod.mk.inj ran
      intro event member
      rcases List.mem_cons.mp member with rfl | later
      · rfl
      · exact ih rfl event later

/-- A message is only added with the name of a role. -/
theorem role_of_addMessage {handle : Handle} {role content : Value} {answer : Answer}
    (succeeded : ((Operation.addMessage handle role content).event registry).outcome =
      .ok answer) : role = .text "user" ∨ role = .text "assistant" := by
  obtain ⟨parsed, accepted⟩ : ∃ parsed, Role.parse role = .ok parsed := by
    cases outcome : Role.parse role with
    | ok parsed => exact ⟨parsed, rfl⟩
    | error fault =>
        simp only [Operation.event, Operation.perform, Registry.addMessage, Message.make, outcome,
          Except.map] at succeeded
        cases succeeded
  cases role with
  | text name =>
      unfold Role.parse Role.ofName? at accepted
      by_cases user : name = "user"
      · exact .inl (congrArg Value.text user)
      · by_cases assistant : name = "assistant"
        · exact .inr (congrArg Value.text assistant)
        · simp only [if_neg user, if_neg assistant] at accepted
          cases accepted
  | _ =>
      obtain ⟨_, _, refused⟩ := Outcome.bind_eq_ok.mp accepted
      cases refused

/-- The history of an identifier is the end of its log, and no longer than its window. -/
theorem Keeps.history (keeps : Keeps log registry) {id : Value} (string : id.IsString) :
    match registry.find? id with
    | some session =>
      registry.history id = .ok (recent session.window.size (log id)) ∧
        session.messages.length ≤ session.window.size
    | none => registry.history id = .ok [] ∧ log id = [] := by
  have meant : registry.resolveId id = id := resolveId_of_isString string
  have read := history_of_view (meant.symm ▸ string)
  rw [meant] at read
  rw [read]
  have kept := keeps.view_eq id string
  unfold view at kept ⊢
  cases found : registry.find? id with
  | none =>
      rw [found] at kept
      rcases kept with ⟨_, present⟩ | ⟨_, nothing⟩
      · cases present
      · exact ⟨rfl, nothing⟩
  | some session =>
      rw [found] at kept
      rcases kept with ⟨size, present⟩ | ⟨absent, _⟩
      · obtain ⟨rfl, messages_eq⟩ := Prod.mk.inj (Option.some.inj present)
        refine ⟨congrArg Except.ok messages_eq, ?_⟩
        rw [messages_eq]
        exact length_recent_le _ _
      · cases absent

/-- **Sessions hold the ends of their logs.**  After any calls on an empty registry, whatever fails
among them, the history of an identifier is the end of its log, as long as its window; there is no
session only where nothing was logged.  The sessions bear their identifiers, all roles are proper
ones, and each call leaves other identifiers alone, and everything when it fails. -/
theorem run_windows (maxHistory defaultId : Value)
    (textual : ∀ operation ∈ operations, operation.Textual (empty maxHistory defaultId))
    (ran : Registry.run operations (empty maxHistory defaultId) = (events, last))
    (first : FetchedFirst none events) :
    (∀ id : Value, id.IsString →
      match last.find? id with
      | some session =>
        last.history id = .ok (recent session.window.size (logAfter id events)) ∧
          session.messages.length ≤ session.window.size
      | none => last.history id = .ok [] ∧ logAfter id events = []) ∧
    (∀ entry ∈ last.index, (last.session entry.2).id = entry.1) ∧
    (∀ session ∈ last.sessions, ∀ message ∈ session.messages,
      message.role.name = "user" ∨ message.role.name = "assistant") ∧
    ∀ event ∈ events,
      (∀ fault, event.outcome = .error fault → event.after = event.before) ∧
      (∀ id : Value, id.IsString → ¬ event.Concerns id →
        event.after.view id = event.before.view id) ∧
      ∀ handle role content answer, event.operation = .addMessage handle role content →
        event.outcome = .ok answer → role = .text "user" ∨ role = .text "assistant" := by
  have unfetched : ∀ handle, none = some handle → (empty maxHistory defaultId).Leads handle := by
    intro handle found
    cases found
  obtain ⟨kept, lawful⟩ := (keeps_empty maxHistory defaultId).run unfetched textual ran first
  refine ⟨fun id string => kept.history string, kept.sound.named, ?_, ?_⟩
  · intro session _ message _
    cases message.role with
    | user => exact .inl rfl
    | assistant => exact .inr rfl
  · intro event member
    obtain ⟨_, law⟩ := lawful event member
    refine ⟨law.unchanged, law.view_other, ?_⟩
    intro handle role content answer called succeeded
    rw [event_of_mem_run ran event member, called] at succeeded
    exact role_of_addMessage succeeded

/-- Calls on two sessions: one is filled beyond its window, the other is restored with a smaller
window, and a message of nobody is refused. -/
def visits : List Operation :=
  [.getOrCreate .null, .addTurn 0 (.text "a") (.text "b"),
    .getOrCreate (.text "default"), .addMessage 0 (.text "user") (.text "c"),
    .restore [⟨some (.text "s"), some (.integer 1), some (.list [
      .map [(.text "role", .text "user"), (.text "content", .text "d")],
      .map [(.text "role", .text "assistant"), (.text "content", .text "e")]])⟩],
    .getOrCreate (.text "s"), .addMessage 1 (.text "nobody") (.text "f")]

theorem visits_windows :
    ∃ events last, Registry.run visits (empty (.integer 2) (.text "default")) = (events, last) ∧
      FetchedFirst none events ∧
      (∀ id : Value, id.IsString →
        match last.find? id with
        | some session =>
          last.history id = .ok (recent session.window.size (logAfter id events)) ∧
            session.messages.length ≤ session.window.size
        | none => last.history id = .ok [] ∧ logAfter id events = []) ∧
      last.history (.text "default") = .ok [⟨.assistant, .text "b"⟩, ⟨.user, .text "c"⟩] ∧
      last.history (.text "s") = .ok [⟨.assistant, .text "e"⟩] := by
  have textual : ∀ operation ∈ visits,
      operation.Textual (empty (.integer 2) (.text "default")) := by
    simp [visits, Operation.Textual, resolveId, empty, Value.IsString]
  have first : FetchedFirst none
      (Registry.run visits (empty (.integer 2) (.text "default"))).1 := by
    refine ⟨nofun, ?_, nofun, ?_, nofun, nofun, ?_, trivial⟩
    all_goals
      intro handle found
      cases found
      rfl
  have filled : (Registry.run visits (empty (.integer 2) (.text "default"))).2.history
      (.text "default") = .ok [⟨.assistant, .text "b"⟩, ⟨.user, .text "c"⟩] := rfl
  have restored : (Registry.run visits (empty (.integer 2) (.text "default"))).2.history
      (.text "s") = .ok [⟨.assistant, .text "e"⟩] := rfl
  rcases ran : Registry.run visits (empty (.integer 2) (.text "default")) with ⟨events, last⟩
  rw [ran] at first filled restored
  exact ⟨events, last, rfl, first, (run_windows _ _ textual ran first).1, filled, restored⟩

end Runs

end Registry

end RecallChat
