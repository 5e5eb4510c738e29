import RecallChat.Proofs.Archive.Merging

/-!
# Restoring any rows

An archive can hold any rows that its schema admits (`Tables.Admitted`), also rows that no state was
saved as: windows that no session can have, roles that do not exist, messages without a session, and
vectors with missing numbers.  Restoring them either fails and leaves the state alone, or merges all
of them into it (`Database.restoreInto_cases`): everything that can fail comes before the first
session is registered, since identifiers that are texts can always be keys and stored numbers can
always be read.
-/

set_option autoImplicit false

namespace RecallChat

/-! ## What rows stand for -/

/-- What is stored of a message: the name of its role, and its content. -/
def Message.stored (message : Message) : String × Value := (message.role.name, message.content)

/-- What a row stores of a message. -/
def MessageRow.stored (row : MessageRow) : String × Value := (row.role, .text row.content)

/-- The memory that a row stands for: a missing vector is an empty one, and what stands for a
missing number is not a number. -/
def MemoryRow.entry (row : MemoryRow) : MemoryEntry :=
  ⟨.text row.text, (row.vector.getD []).map fun number => number.getD .nan⟩

namespace Tables

/-- What the schema demands of the rows: no two sessions have one identifier, and no two memories
one position. -/
structure Admitted (tables : Tables) : Prop where
  ids : (tables.sessions.map SessionRow.id).Nodup
  positions : (tables.memories.map MemoryRow.position).Nodup

/-- That rows are the messages of a session, by their positions. -/
structure History (tables : Tables) (id : String) (rows : List MessageRow) : Prop where
  own : rows.Perm (tables.messages.filter fun row => row.sessionId == id)
  ordered : rows.Pairwise fun a b => a.position ≤ b.position

/-- That a state is another with the rows of an archive merged into it: each stored session is there
with its window and the end of its messages, all other sessions are as they were, and the stored
memories are added once, by their positions. -/
structure Merges (tables : Tables) (before after : ChatState) : Prop where
  sound : after.registry.Sound
  replaced : ∀ row ∈ tables.sessions, ∃ size messages rows,
    after.registry.view (.text row.id) = some (size, messages) ∧ (size : Int) = row.maxHistory ∧
    tables.History row.id rows ∧
    messages.map Message.stored = recent size (rows.map MessageRow.stored)
  kept : ∀ id : Value, id.IsString → (∀ row ∈ tables.sessions, id ≠ .text row.id) →
    after.registry.find? id = before.registry.find? id
  ids_eq : ∃ added : List String,
    after.registry.ids = before.registry.ids ++ added.map Value.text ∧
      added.Pairwise (· < ·) ∧
      ∀ name, name ∈ added ↔
        name ∈ tables.sessions.map SessionRow.id ∧ Value.text name ∉ before.registry.ids
  maxHistory_eq : after.registry.maxHistory = before.registry.maxHistory
  defaultId_eq : after.registry.defaultId = before.registry.defaultId
  appended : ∃ rows : List MemoryRow,
    rows.Perm tables.memories ∧ rows.Pairwise (fun a b => a.position < b.position) ∧
      after.memory.entries = before.memory.entries ++ rows.map MemoryRow.entry

/-! ## Reading rows -/

theorem stored_of_messageOfValue {row : MessageRow} {message : Message}
    (made : Session.messageOfValue (messageValue row) = .ok message) :
    message.stored = row.stored := by
  change Message.make (.text row.role) (.text row.content) = .ok message at made
  obtain ⟨role, named, rfl⟩ := Outcome.map_eq_ok.mp made
  have name_eq : role.name = row.role := by
    unfold Role.parse Role.ofName? at named
    dsimp only at named
    split at named
    · next found =>
        cases named
        split at found
        · next isUser => cases found; exact isUser.symm
        · split at found
          · next isAssistant => cases found; exact isAssistant.symm
          · cases found
    · cases named
  rw [Message.stored, name_eq]
  rfl

theorem recent_map {α β : Type} (count : Nat) (items : List α) (f : α → β) :
    (recent count items).map f = recent count (items.map f) := by
  rw [recent, recent, List.map_drop, List.length_map]

/-- The window that an integer denotes has its size. -/
theorem size_of_ofValue_integer {n : Int} {window : Window}
    (made : Window.ofValue (.integer n) = .ok window) : (window.size : Int) = n := by
  unfold Window.ofValue at made
  simp only [Value.number?] at made
  split at made
  · obtain ⟨_, _, refused⟩ := Outcome.bind_eq_ok.mp made
    cases refused
  · split at made
    · next bounds =>
        cases made
        exact Int.toNat_of_nonneg (by omega)
    · cases made

/-- That a session has the identifier and the window of a row, and the end of its messages. -/
structure OfRows (messages : List MessageRow) (row : SessionRow) (session : Session) : Prop where
  id_eq : session.id = .text row.id
  sound : session.Sound
  size_eq : (session.window.size : Int) = row.maxHistory
  messages_eq : session.messages.map Message.stored = recent session.window.size
    ((messages.filter fun message => message.sessionId == row.id).map MessageRow.stored)

theorem ofRows_of_ofRecord {messages : List MessageRow} {row : SessionRow} {session : Session}
    (made : Session.ofRecord (sessionRecord messages row) = .ok session) :
    OfRows messages row session := by
  unfold Session.ofRecord sessionRecord at made
  dsimp only at made
  obtain ⟨fresh, opened, made⟩ := Outcome.bind_eq_ok.mp made
  obtain ⟨window, proper, rfl⟩ := Outcome.map_eq_ok.mp opened
  obtain ⟨items, listed, made⟩ := Outcome.bind_eq_ok.mp made
  cases listed
  obtain ⟨read, results, made⟩ := Outcome.bind_eq_ok.mp made
  cases made
  have stored : read.map Message.stored =
      (messages.filter fun message => message.sessionId == row.id).map MessageRow.stored := by
    have : Inhabited Message := ⟨⟨.user, .null⟩⟩
    rw [List.mapM_map] at results
    obtain ⟨message, rfl, each⟩ := Outcome.exists_map_of_mapM_eq_ok results
    rw [List.map_map]
    exact List.map_congr_left fun own member => stored_of_messageOfValue (each own member)
  refine ⟨rfl, Session.Sound.push ⟨Nat.zero_le _, Window.size_of_isTruthValue proper⟩ _,
    size_of_ofValue_integer proper, ?_⟩
  rw [← stored, ← recent_map]
  rfl

variable (tables : Tables)

/-- The messages that are read for a session are its own, by their positions. -/
theorem history_sortedMessages (id : String) :
    tables.History id (tables.sortedMessages.filter fun row => row.sessionId == id) := by
  constructor
  case own => exact (List.mergeSort_perm _ _).filter _
  case ordered =>
    have sorted : tables.sortedMessages.Pairwise fun a b => a.ranksBefore b = true :=
      List.pairwise_mergeSort MessageRow.ranksBefore_trans MessageRow.ranksBefore_total _
    refine (sorted.filter _).imp_of_mem fun {a b} first second ranks => ?_
    have same : a.sessionId = b.sessionId := by
      rw [beq_iff_eq.mp (List.mem_filter.mp first).2, beq_iff_eq.mp (List.mem_filter.mp second).2]
    rcases MessageRow.ranksBefore_iff.mp ranks with below | ⟨_, le⟩
    · exact (below.ne same).elim
    · exact le

theorem pairwise_sortedMemories (distinct : (tables.memories.map MemoryRow.position).Nodup) :
    (tables.sortedMemories.map MemoryRow.position).Pairwise (· < ·) :=
  pairwise_lt_mergeSort MemoryRow.position (fun _ _ => decide_eq_true_iff) distinct

theorem pairwise_sortedSessions (distinct : (tables.sessions.map SessionRow.id).Nodup) :
    (tables.sortedSessions.map SessionRow.id).Pairwise (· < ·) :=
  pairwise_lt_mergeSort SessionRow.id (fun _ _ => decide_eq_true_iff) distinct

theorem records_of_rows {records : List SessionRecord}
    (read : tables.sessionRecords = .ok records) :
    records = tables.sortedSessions.map (sessionRecord tables.sortedMessages) := by
  unfold sessionRecords at read
  dsimp only at read
  split at read
  · cases read
  · exact (Except.ok.inj read).symm

/-- The stored memories can always be read. -/
theorem extend_memoryRecords (memory : Memory) :
    memory.extend tables.memoryRecords = .ok (tables.sortedMemories.length,
      ⟨memory.entries ++ tables.sortedMemories.map MemoryRow.entry⟩) := by
  have entries : tables.memoryRecords.mapM Memory.entryOfRecord =
      .ok (tables.sortedMemories.map MemoryRow.entry) := by
    refine Outcome.mapM_map_eq_ok fun row _ => ?_
    unfold Memory.entryOfRecord memoryRecord Memory.entryOf
    dsimp only
    rw [Vector32.ofValue_numbers]
    rfl
  unfold Memory.extend
  rw [entries, Except.map, List.length_map]

end Tables

theorem ChatState.Storable.admitted {chat : ChatState} (storable : chat.Storable) :
    chat.snapshot.Admitted := by
  constructor
  case ids =>
    have ids : chat.snapshot.sessions.map SessionRow.id =
        chat.registry.sessions.map Session.name := List.map_map
    exact ids ▸ storable.distinct
  case positions =>
    have positions : chat.snapshot.memories.map MemoryRow.position =
        (chat.memory.entries.zipIdx.map Prod.snd).map Int.ofNat := by
      unfold ChatState.snapshot
      rw [List.map_map, List.map_map]
      rfl
    rw [positions, List.zipIdx_map_snd]
    exact List.Nodup.map (fun _ _ => Int.ofNat.inj) List.nodup_range'

/-! ## Merging rows -/

/-- Sessions whose identifiers are strings can always be registered. -/
theorem Registry.registerAll_of_strings {sessions : List Session}
    (strings : ∀ session ∈ sessions, session.id.IsString) (registry : Registry) :
    ∃ registered, registry.registerAll sessions = (.ok (), registered) := by
  induction sessions generalizing registry with
  | nil => exact ⟨registry, rfl⟩
  | cons session rest ih =>
      have usable : key session.id = .ok session.id :=
        if_pos (Value.isHashable_of_isString (strings session List.mem_cons_self))
      rw [registerAll, usable]
      exact ih (fun other later => strings other (List.mem_cons_of_mem session later)) _

namespace Tables

variable {tables : Tables} {chat : ChatState} {session : SessionRow → Session}
  (each : ∀ row ∈ tables.sortedSessions, OfRows tables.sortedMessages row (session row))

include each

theorem ids_of_rows : (tables.sortedSessions.map session).map Session.id =
    (tables.sortedSessions.map SessionRow.id).map Value.text := by
  rw [List.map_map, List.map_map]
  exact List.map_congr_left fun row member => (each row member).id_eq

/-- What registering the sessions of all rows and adding the memories makes of a state. -/
theorem merges_of_registers (admitted : tables.Admitted) {registered : Registry}
    (registers : chat.registry.Registers (tables.sortedSessions.map session) registered) :
    tables.Merges chat
      ⟨registered, ⟨chat.memory.entries ++ tables.sortedMemories.map MemoryRow.entry⟩⟩ := by
  have mem_sorted : ∀ row, row ∈ tables.sortedSessions ↔ row ∈ tables.sessions :=
    fun row => List.mem_mergeSort
  constructor
  case sound => exact registers.sound
  case replaced =>
    intro row member
    have sorted := (mem_sorted row).mpr member
    have own := each row sorted
    exact ⟨_, _, _, own.id_eq ▸ registers.view_self _ (List.mem_map_of_mem sorted), own.size_eq,
      tables.history_sortedMessages row.id, own.messages_eq⟩
  case kept =>
    intro id string absent
    refine registers.find?_other id string fun among => ?_
    rw [ids_of_rows each, List.map_map] at among
    obtain ⟨row, sorted, rfl⟩ := List.mem_map.mp among
    exact absent row ((mem_sorted row).mp sorted) rfl
  case ids_eq =>
    refine ⟨(tables.sortedSessions.map SessionRow.id).filter
      fun name => (chat.registry.handle? (.text name)).isNone, ?_,
      (tables.pairwise_sortedSessions admitted.ids).filter _, fun name => ?_⟩
    · rw [registers.ids_eq, ids_of_rows each, List.filter_map]
      rfl
    · have named : name ∈ tables.sortedSessions.map SessionRow.id ↔
          name ∈ tables.sessions.map SessionRow.id :=
        ((List.mergeSort_perm _ _).map SessionRow.id).mem_iff
      have new : (chat.registry.handle? (.text name)).isNone = true ↔
          Value.text name ∉ chat.registry.ids := by
        have string : (Value.text name).IsString := trivial
        rw [Option.isNone_iff_eq_none]
        exact Registry.handle?_eq_none_iff string
      rw [List.mem_filter, named, new]
  case maxHistory_eq => exact registers.maxHistory_eq
  case defaultId_eq => exact registers.defaultId_eq
  case appended =>
    exact ⟨tables.sortedMemories, List.mergeSort_perm _ _,
      List.pairwise_map.mp (tables.pairwise_sortedMemories admitted.positions), rfl⟩

end Tables

/-- **Restoring any rows into a state leaves the state alone or merges them into it.** -/
theorem Database.restoreInto_cases (tables : Tables) (chat : ChatState) :
    (∃ fault, restoreInto tables chat = (.error fault, chat)) ∨
      ∃ counts restored, restoreInto tables chat = (.ok counts, restored) ∧
        (chat.registry.Sound → tables.Admitted → tables.Merges chat restored) := by
  unfold restoreInto
  cases read : tables.sessionRecords with
  | error fault => exact .inl ⟨fault, rfl⟩
  | ok records =>
      obtain rfl := tables.records_of_rows read
      unfold Registry.restore
      dsimp only
      cases made : (tables.sortedSessions.map (Tables.sessionRecord tables.sortedMessages)).mapM
          Session.ofRecord with
      | error fault => exact .inl ⟨fault, rfl⟩
      | ok sessions =>
          -- from here on nothing fails
          rw [List.mapM_map] at made
          obtain ⟨session, rfl, each⟩ := Outcome.exists_map_of_mapM_eq_ok made
          have own : ∀ row ∈ tables.sortedSessions,
              Tables.OfRows tables.sortedMessages row (session row) :=
            fun row member => Tables.ofRows_of_ofRecord (each row member)
          have strings : ∀ registered ∈ tables.sortedSessions.map session,
              registered.id.IsString :=
            List.forall_mem_map.mpr fun row member => (own row member).id_eq ▸ trivial
          obtain ⟨registered, all⟩ := Registry.registerAll_of_strings strings chat.registry
          dsimp only
          rw [all, tables.extend_memoryRecords]
          refine .inr ⟨_, _, rfl, fun sound admitted => ?_⟩
          have names : (tables.sortedSessions.map SessionRow.id).Nodup :=
            (tables.pairwise_sortedSessions admitted.ids).imp fun below => below.ne
          have distinct : ((tables.sortedSessions.map session).map Session.id).Nodup := by
            rw [Tables.ids_of_rows own]
            exact names.map fun _ _ => Value.text.inj
          obtain ⟨registered', all', registers⟩ := Registry.registerAll_spec sound strings
            (List.forall_mem_map.mpr fun row member => (own row member).sound) distinct
          rw [all] at all'
          cases all'
          exact Tables.merges_of_registers own admitted registers

namespace Archive

/-- That a state is another with the rows of an open archive merged into it, where the schema admits
them. -/
structure Restores (archive : Archive) (files : ArchiveFiles) (before after : ChatState) :
    Prop where
  isOpen : archive.isOpen = true
  merges : (archive.current files).tables.Admitted →
    (archive.current files).tables.Merges before after

/-- Restoring an archive fails and leaves the state alone, or merges its rows. -/
theorem restore_cases (archive : Archive) (chat : ChatState) (scene : Scene ArchiveFiles) :
    (∃ fault after, (archive.restore chat).perform scene = (.ok (.error fault, chat), after)) ∨
      ∃ restored after, (archive.restore chat).perform scene = (.ok (.ok (), restored), after) ∧
        (chat.registry.Sound → archive.Restores scene.world chat restored) := by
  unfold restore
  cases isOpen : archive.isOpen with
  | false =>
      rw [Action.perform_bind_of_ok (perform_query_of_closed _ isOpen scene)]
      exact .inl ⟨_, _, rfl⟩
  | true =>
      have read : Query.perform (Database.tables <$> get) (archive.current scene.world) =
          (.ok (archive.current scene.world).tables, archive.current scene.world) := rfl
      rw [Action.perform_bind_of_ok (perform_query isOpen scene read)]
      dsimp only
      rcases Database.restoreInto_cases (archive.current scene.world).tables chat with
        ⟨fault, failed⟩ | ⟨counts, restored, merged, merges⟩
      · rw [failed]
        exact .inl ⟨fault, _, rfl⟩
      · rw [merged]
        exact .inr ⟨restored, _, rfl, fun sound => ⟨isOpen, merges sound⟩⟩

end Archive

end RecallChat
