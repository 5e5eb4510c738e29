import RecallChat.Proofs.Archive.Saving
import Mathlib.Algebra.GroupWithZero.Nat

/-!
# Merging a snapshot

Restoring merges the snapshot of a saved state into any state (`Storable.merges`): the saved
sessions are registered with their histories, those under new identifiers after all others and in
the order of their identifiers, the saved memories are added at the end, and nothing else changes.

A state that was saved without a fault is one that can be stored (`Textual.storable_of_replaced`), so
its snapshot is what is left in the archive (`perform_save_leaves`).  Together these say what is in
an archive after any saves and what comes out of it: the last state, and nothing of the earlier ones
(`holds_last_saved`).
-/

set_option autoImplicit false

namespace RecallChat

/-! ## Sessions from records -/

namespace Session

/-- A session with its window given as an integer. -/
def reopened (session : Session) : Session :=
  { session with window := { session.window with isTruthValue := false } }

theorem Sound.reopened {session : Session} (sound : session.Sound) : session.reopened.Sound :=
  ⟨sound.fits, nofun⟩

/-- The record of a stored session is read as a session with the same window and messages. -/
theorem ofRecord_storedRecord {session : Session} (sound : session.Sound) :
    ofRecord session.storedRecord = .ok session.reopened :=
  ofRecord_toRecord sound.reopened

end Session

/-! ## Restoring into a state -/

namespace ChatState

/-- That a state is another with the snapshot of a saved state merged into it. -/
structure Merges (saved target restored : ChatState) : Prop where
  view_saved : ∀ session ∈ saved.registry.sessions,
    restored.registry.view session.id = some (session.window.size, session.messages)
  find?_other : ∀ id : Value, id.IsString → id ∉ saved.registry.ids →
    restored.registry.find? id = target.registry.find? id
  ids_eq : ∃ added : List String,
    restored.registry.ids = target.registry.ids ++ added.map Value.text ∧
      added.Pairwise (· < ·) ∧
      ∀ name, name ∈ added ↔
        Value.text name ∈ saved.registry.ids ∧ Value.text name ∉ target.registry.ids
  maxHistory_eq : restored.registry.maxHistory = target.registry.maxHistory
  defaultId_eq : restored.registry.defaultId = target.registry.defaultId
  entries_eq : restored.memory.entries = target.memory.entries ++ saved.memory.entries

/-- The numbers of sessions, of messages in all of them, and of memories. -/
def amounts (chat : ChatState) : RowCounts :=
  ⟨chat.registry.size, (chat.registry.sessions.map Session.size).sum, chat.memory.size⟩

theorem counts_snapshot (chat : ChatState) : chat.snapshot.counts = chat.amounts := by
  have rows : ∀ session : Session, session.messageRows.length = session.size := by
    intro session
    rw [Session.messageRows, List.length_map, List.length_zipIdx, Session.size]
  simp [Tables.counts, snapshot, amounts, rows, List.length_flatMap, Registry.sessions,
    Registry.size, Memory.size]

variable {chat target : ChatState}

/-- The records of a snapshot are restored as its sessions with their windows as integers. -/
theorem Storable.restore_storedRecords (storable : chat.Storable) {registry : Registry}
    (sound : registry.Sound) :
    ∃ registered,
      registry.restore (chat.registry.ordered.map Session.storedRecord) =
        (.ok chat.registry.size, registered) ∧
      registry.Registers (chat.registry.ordered.map Session.reopened) registered := by
  have sounds : ∀ session ∈ chat.registry.ordered, session.Sound ∧ session.id.IsString :=
    fun session member => storable.sound.of_mem_sessions (Registry.mem_ordered.mp member)
  have read : (chat.registry.ordered.map Session.storedRecord).mapM Session.ofRecord =
      .ok (chat.registry.ordered.map Session.reopened) :=
    Outcome.mapM_map_eq_ok fun session member =>
      Session.ofRecord_storedRecord (sounds session member).1
  have count : (chat.registry.ordered.map Session.reopened).length = chat.registry.size := by
    rw [List.length_map, Registry.ordered, List.length_mergeSort, Registry.sessions,
      List.length_map]
    rfl
  have distinct : ((chat.registry.ordered.map Session.reopened).map Session.id).Nodup := by
    have ids : (chat.registry.ordered.map Session.id).Nodup :=
      ((List.mergeSort_perm _ _).map Session.id).nodup_iff.mpr storable.sound.distinct
    rw [List.map_map]
    exact ids
  have strings : ∀ session ∈ chat.registry.ordered.map Session.reopened, session.id.IsString :=
    List.forall_mem_map.mpr fun session member => (sounds session member).2
  have proper : ∀ session ∈ chat.registry.ordered.map Session.reopened, session.Sound :=
    List.forall_mem_map.mpr fun session member => (sounds session member).1.reopened
  obtain ⟨registered, all, registers⟩ :=
    Registry.registerAll_spec sound strings proper distinct
  refine ⟨registered, ?_, registers⟩
  unfold Registry.restore
  rw [read]
  dsimp only
  rw [all, count]

/-- A snapshot is restored into any state: its sessions are registered, and its memories added. -/
theorem Storable.restoreInto_snapshot (storable : chat.Storable)
    (sound : target.registry.Sound) :
    ∃ registered,
      Database.restoreInto chat.snapshot target =
        (.ok (chat.registry.size, chat.memory.size),
          ⟨registered, ⟨target.memory.entries ++ chat.memory.entries⟩⟩) ∧
      target.registry.Registers (chat.registry.ordered.map Session.reopened) registered := by
  obtain ⟨registered, restored, registers⟩ := storable.restore_storedRecords sound
  refine ⟨registered, ?_, registers⟩
  unfold Database.restoreInto
  rw [storable.sessionRecords_snapshot]
  dsimp only
  rw [restored, storable.memoryRecords_snapshot, Memory.extend_toRecords]

/-- The names of the sessions are in ascending order once these are in order. -/
theorem Storable.pairwise_names (storable : chat.Storable) :
    (chat.registry.ordered.map Session.name).Pairwise (· < ·) :=
  pairwise_lt_mergeSort Session.name (fun _ _ => decide_eq_true_iff) storable.distinct

/-- **What registering the sessions of a snapshot makes of a state is the state with the snapshot
merged into it.** -/
theorem Storable.merges (storable : chat.Storable) {registered : Registry}
    (registers : target.registry.Registers (chat.registry.ordered.map Session.reopened)
      registered) :
    chat.Merges target ⟨registered, ⟨target.memory.entries ++ chat.memory.entries⟩⟩ := by
  have ids : (chat.registry.ordered.map Session.reopened).map Session.id =
      (chat.registry.ordered.map Session.name).map Value.text := by
    rw [List.map_map, List.map_map]
    exact List.map_congr_left fun session member =>
      (storable.ids session (Registry.mem_ordered.mp member)).text_asText.symm
  have mem_ids : ∀ id, id ∈ (chat.registry.ordered.map Session.reopened).map Session.id ↔
      id ∈ chat.registry.ids := by
    intro id
    rw [Registry.ids, ← storable.sound.ids_eq, List.map_map, List.mem_map, List.mem_map]
    exact exists_congr fun session => and_congr_left' Registry.mem_ordered
  constructor
  case view_saved =>
    intro session member
    exact registers.view_self session.reopened (List.mem_map_of_mem (Registry.mem_ordered.mpr member))
  case find?_other =>
    exact fun id string absent => registers.find?_other id string (mt (mem_ids id).mp absent)
  case ids_eq =>
    -- what is added are the names without a handle, in the order in which they are registered
    refine ⟨(chat.registry.ordered.map Session.name).filter
      fun name => (target.registry.handle? (.text name)).isNone, ?_,
      storable.pairwise_names.filter _, fun name => ?_⟩
    · rw [registers.ids_eq, ids, List.filter_map]
      rfl
    · have named : name ∈ chat.registry.ordered.map Session.name ↔
          Value.text name ∈ chat.registry.ids := by
        rw [← mem_ids, ids, List.mem_map_of_injective fun _ _ => Value.text.inj]
      have new : (target.registry.handle? (.text name)).isNone = true ↔
          Value.text name ∉ target.registry.ids := by
        have string : (Value.text name).IsString := trivial
        rw [Option.isNone_iff_eq_none]
        exact Registry.handle?_eq_none_iff string
      rw [List.mem_filter, named, new]
  case maxHistory_eq => exact registers.maxHistory_eq
  case defaultId_eq => exact registers.defaultId_eq
  case entries_eq => rfl

end ChatState

/-! ## States that were saved -/

/-- That a state is sound and all its texts are strings, well-formed or not. -/
structure ChatState.Textual (chat : ChatState) : Prop where
  sound : chat.registry.Sound
  contents : ∀ session ∈ chat.registry.sessions, ∀ message ∈ session.messages,
    message.content.IsString
  texts : ∀ entry ∈ chat.memory.entries, entry.text.IsString

namespace Column

/-- A string that a text column takes is kept there: one with surrogates is not taken. -/
theorem keeps_of_taken {value : Value} (string : value.IsString) {text : Option String}
    (taken : text? value = .ok text) : Keeps value := by
  cases value with
  | text value => exact keeps_text value
  | illFormed points => cases taken
  | _ => exact string.elim

/-- A window that a column of integers takes fits in thirty-two bits. -/
theorem size_lt_of_taken {session : Session} (sound : session.Sound) {size : Int}
    (taken : integer session.window.toValue = .ok size) : session.window.size < 2 ^ 31 := by
  cases truth : session.window.isTruthValue with
  | true =>
      rw [sound.truthValue truth]
      decide
  | false =>
      have number : session.window.toValue.number? = some (.integer session.window.size) := by
        rw [Window.toValue, truth]
        rfl
      rw [integer, number] at taken
      dsimp only at taken
      split at taken
      · omega
      · cases taken

end Column

namespace Tables

variable {before after : Tables}

theorem taken_of_insertSession {session : Session}
    (inserted : before.insertSession session = .ok after) :
    (∃ text, Column.text? session.id = .ok text) ∧
      ∃ size, Column.integer session.window.toValue = .ok size := by
  obtain ⟨text, id, inserted⟩ := Outcome.bind_eq_ok.mp inserted
  obtain ⟨size, window, _⟩ := Outcome.bind_eq_ok.mp inserted
  exact ⟨⟨text, id⟩, ⟨size, window⟩⟩

theorem taken_of_insertMessage {id : Value} {position : Nat} {message : Message}
    (inserted : before.insertMessage id position message = .ok after) :
    ∃ text, Column.text? message.content = .ok text := by
  obtain ⟨_, _, inserted⟩ := Outcome.bind_eq_ok.mp inserted
  obtain ⟨text, content, _⟩ := Outcome.bind_eq_ok.mp inserted
  exact ⟨text, content⟩

theorem taken_of_insertMemory {position : Nat} {entry : MemoryEntry}
    (inserted : before.insertMemory position entry = .ok after) :
    ∃ text, Column.text? entry.text = .ok text := by
  obtain ⟨text, taken, _⟩ := Outcome.bind_eq_ok.mp inserted
  exact ⟨text, taken⟩

end Tables

namespace Database

variable {database after : Database}

theorem changed_of_update {f : Tables → Except Fault Tables}
    (updated : (update f).perform database = (.ok (), after)) :
    ∃ tables changed, f tables = .ok changed := by
  obtain ⟨seen, _, _, updated⟩ := Query.perform_bind_eq_ok.mp updated
  cases changed : f seen.tables with
  | ok tables => exact ⟨seen.tables, tables, changed⟩
  | error fault =>
      rw [changed] at updated
      cases updated

/-- A loop that ends well has done each of its items well. -/
theorem each_of_forM {ι : Type} {query : ι → Query Unit} {items : List ι}
    (looped : (items.forM query).perform database = (.ok (), after)) {item : ι}
    (member : item ∈ items) :
    ∃ before later, (query item).perform before = (.ok (), later) := by
  induction items generalizing database with
  | nil => cases member
  | cons first rest ih =>
      obtain ⟨_, middle, performed, looped⟩ := Query.perform_bind_eq_ok.mp looped
      rcases List.mem_cons.mp member with rfl | later
      · exact ⟨database, middle, performed⟩
      · exact ih looped later

end Database

namespace ChatState

variable {chat : ChatState}

/-- **A state that was saved without a fault is one that can be stored.** -/
theorem Textual.storable_of_replaced (textual : chat.Textual) {database after : Database}
    (replaced : (Database.replaceAll chat).perform database = (.ok (), after)) :
    chat.Storable := by
  -- the three deletions say nothing of the state, the insertions that follow take all its values
  obtain ⟨_, _, _, replaced⟩ := Query.perform_bind_eq_ok.mp replaced
  obtain ⟨_, _, _, replaced⟩ := Query.perform_bind_eq_ok.mp replaced
  obtain ⟨_, _, _, replaced⟩ := Query.perform_bind_eq_ok.mp replaced
  obtain ⟨_, _, inserted, _⟩ := Query.perform_bind_eq_ok.mp replaced
  obtain ⟨_, _, sessions, inserted⟩ := Query.perform_bind_eq_ok.mp inserted
  obtain ⟨_, _, messages, memories⟩ := Query.perform_bind_eq_ok.mp inserted
  have stored : ∀ session ∈ chat.registry.sessions,
      (∃ text, Column.text? session.id = .ok text) ∧
        ∃ size, Column.integer session.window.toValue = .ok size := by
    intro session member
    obtain ⟨_, _, added⟩ := Database.each_of_forM sessions member
    obtain ⟨_, _, changed⟩ := Database.changed_of_update added
    exact Tables.taken_of_insertSession changed
  constructor
  case sound => exact textual.sound
  case ids =>
    intro session member
    obtain ⟨text, taken⟩ := (stored session member).1
    exact Column.keeps_of_taken (textual.sound.of_mem_sessions member).2 taken
  case windows =>
    intro session member
    obtain ⟨size, taken⟩ := (stored session member).2
    exact Column.size_lt_of_taken (textual.sound.of_mem_sessions member).1 taken
  case contents =>
    intro session member message among
    obtain ⟨position, placed⟩ := exists_mem_zipIdx among
    obtain ⟨_, _, ofSession⟩ := Database.each_of_forM messages member
    obtain ⟨_, _, added⟩ := Database.each_of_forM ofSession placed
    obtain ⟨_, _, changed⟩ := Database.changed_of_update added
    obtain ⟨text, taken⟩ := Tables.taken_of_insertMessage changed
    exact Column.keeps_of_taken (textual.contents session member message among) taken
  case texts =>
    intro entry member
    obtain ⟨position, placed⟩ := exists_mem_zipIdx member
    obtain ⟨_, _, added⟩ := Database.each_of_forM memories placed
    obtain ⟨_, _, changed⟩ := Database.changed_of_update added
    obtain ⟨text, taken⟩ := Tables.taken_of_insertMemory changed
    exact Column.keeps_of_taken (textual.texts entry member) taken

end ChatState

/-! ## Saving and restoring with an archive -/

namespace Archive

variable {archive : Archive}

/-- The files once an archive has written a database back. -/
def written (archive : Archive) (database : Database) (files : ArchiveFiles) : ArchiveFiles :=
  match archive.place with
  | some place => files.set place (.database database.committed)
  | none => files

/-- An archive sees the database that it has written back. -/
theorem current_written (archive : Archive) (database : Database) (files : ArchiveFiles) :
    { archive with database := database }.current (archive.written database files) = database := by
  unfold current written
  cases archive.place with
  | none => rfl
  | some place =>
      dsimp only [Option.bind_some]
      by_cases root : place = []
      · subst root
        rfl
      · rw [FileSystem.entry?_set files root]

/-- An open archive performs a query on its database and writes it back. -/
theorem perform_query {α : Type} {step : Query α} {outcome : Except Fault α} {database : Database}
    (isOpen : archive.isOpen = true) (scene : Scene ArchiveFiles)
    (performed : step.perform (archive.current scene.world) = (outcome, database)) :
    (archive.query step).perform scene =
      (.ok (outcome, { archive with database := database }),
        ⟨archive.written database scene.world, scene.journal⟩) := by
  have closed : (!archive.isOpen) = false := by rw [isOpen]; rfl
  unfold query written
  rw [closed, if_neg Bool.false_ne_true, Action.perform_bind_of_ok (Action.perform_world scene),
    performed]
  cases archive.place with
  | none => rfl
  | some place => rfl

/-- A closed archive performs no query. -/
theorem perform_query_of_closed {α : Type} (step : Query α) (closed : archive.isOpen = false)
    (scene : Scene ArchiveFiles) :
    (archive.query step).perform scene =
      (.ok (.error (.outside .connection "Connection already closed"), archive), scene) := by
  unfold query
  rw [closed]
  rfl

/-- An archive without an open transaction sees a database without one. -/
theorem current_of_idle (idle : archive.database.working = none) (files : ArchiveFiles) :
    ∃ committed, archive.current files = ⟨committed, none⟩ := by
  unfold current
  rw [← idle]
  split
  · exact ⟨_, rfl⟩
  · exact ⟨_, rfl⟩

variable {chat : ChatState}

/-- Saving a state that can be stored leaves its snapshot in the archive's database. -/
theorem perform_save (isOpen : archive.isOpen = true) (storable : chat.Storable)
    (scene : Scene ArchiveFiles) {committed : Tables}
    (seen : archive.current scene.world = ⟨committed, none⟩) :
    ∃ journal, (archive.save chat).perform scene =
      (.ok (.ok (), { archive with database := ⟨chat.snapshot, none⟩ }),
        ⟨archive.written ⟨chat.snapshot, none⟩ scene.world, journal⟩) := by
  have saved : (Database.save chat).perform (archive.current scene.world) =
      (.ok (), ⟨chat.snapshot, none⟩) := seen ▸ Database.perform_save storable committed
  unfold save
  rw [Action.perform_bind_of_ok (perform_query isOpen scene saved)]
  exact ⟨_, rfl⟩

/-- Restoring reads the tables of the archive's database. -/
theorem perform_restore (archive : Archive) (isOpen : archive.isOpen = true)
    (scene : Scene ArchiveFiles) {chat restored : ChatState} {tables : Tables} {counts : Nat × Nat}
    (seen : archive.current scene.world = ⟨tables, none⟩)
    (merged : Database.restoreInto tables chat = (.ok counts, restored)) :
    ∃ after, (archive.restore chat).perform scene = (.ok (.ok (), restored), after) := by
  have read : Query.perform (Database.tables <$> get) (archive.current scene.world) =
      (.ok tables, ⟨tables, none⟩) := by
    rw [seen]
    rfl
  unfold restore
  rw [Action.perform_bind_of_ok (perform_query isOpen scene read)]
  dsimp only
  rw [merged]
  exact ⟨_, rfl⟩

/-- Counting reads the tables of the archive's database. -/
theorem perform_count (archive : Archive) (isOpen : archive.isOpen = true)
    (scene : Scene ArchiveFiles) {tables : Tables}
    (seen : archive.current scene.world = ⟨tables, none⟩) :
    ∃ after, archive.count.perform scene = (.ok (.ok tables.counts), after) := by
  have read : Query.perform ((fun database => database.tables.counts) <$> get)
      (archive.current scene.world) = (.ok tables.counts, ⟨tables, none⟩) := by
    rw [seen]
    rfl
  unfold count
  rw [Action.perform_bind_of_ok (perform_query isOpen scene read)]
  exact ⟨_, rfl⟩

/-! ## What an archive holds -/

/-- **An archive that has saved a state holds exactly its snapshot**, whatever it held before. -/
theorem perform_save_leaves (textual : chat.Textual) {saved : Archive}
    {scene after : Scene ArchiveFiles}
    (performed : (archive.save chat).perform scene = (.ok (.ok (), saved), after)) :
    chat.Storable ∧ saved.isOpen = true ∧ saved.current after.world = ⟨chat.snapshot, none⟩ := by
  cases isOpen : archive.isOpen with
  | false =>
      unfold save at performed
      rw [Action.perform_bind_of_ok (perform_query_of_closed _ isOpen scene)] at performed
      cases performed
  | true =>
      rcases ended : (Database.save chat).perform (archive.current scene.world) with
        ⟨fault | _, database⟩
      · unfold save at performed
        rw [Action.perform_bind_of_ok (perform_query isOpen scene ended)] at performed
        cases performed
      · rcases seen : archive.current scene.world with ⟨committed, _ | working⟩
        · rw [seen, Database.save, Database.perform_transaction] at ended
          rcases replaced : (Database.replaceAll chat).perform ⟨committed, some committed⟩ with
            ⟨fault | _, middle⟩
          · rw [replaced] at ended
            cases ended
          · have storable := textual.storable_of_replaced replaced
            obtain ⟨journal, performed'⟩ := perform_save isOpen storable scene seen
            rw [performed'] at performed
            cases performed
            exact ⟨storable, isOpen, current_written archive ⟨chat.snapshot, none⟩ scene.world⟩
        · -- inside an open transaction none can be started
          rw [seen, Database.save, Database.perform_transaction_of_open] at ended
          cases ended

/-- That an archive holds exactly the snapshot of a state: it counts the state's sessions, messages
and memories, and it is restored without a fault into any state, where it is merged. -/
structure Holds (archive : Archive) (scene : Scene ArchiveFiles) (chat : ChatState) : Prop where
  counted : ∃ after, archive.count.perform scene = (.ok (.ok chat.amounts), after)
  restored : ∀ target : ChatState, target.registry.Sound → ∃ restored after,
    (archive.restore target).perform scene = (.ok (.ok (), restored), after) ∧
      chat.Merges target restored

theorem holds_of_current (storable : chat.Storable) (isOpen : archive.isOpen = true)
    {scene : Scene ArchiveFiles} (seen : archive.current scene.world = ⟨chat.snapshot, none⟩) :
    archive.Holds scene chat := by
  constructor
  case counted =>
    rw [← ChatState.counts_snapshot]
    exact perform_count archive isOpen scene seen
  case restored =>
    intro target sound
    obtain ⟨registered, merged, registers⟩ := storable.restoreInto_snapshot sound
    obtain ⟨after, performed⟩ := perform_restore archive isOpen scene seen merged
    exact ⟨_, after, performed, storable.merges registers⟩

/-- Saves of several states one after the other, none of which fails. -/
inductive Saves : Archive → Scene ArchiveFiles → List ChatState → Archive → Scene ArchiveFiles → Prop
  | done (archive : Archive) (scene : Scene ArchiveFiles) : Saves archive scene [] archive scene
  | next {archive saved last : Archive} {scene middle after : Scene ArchiveFiles}
      {chat : ChatState} {others : List ChatState}
      (saves : (archive.save chat).perform scene = (.ok (.ok (), saved), middle))
      (rest : Saves saved middle others last after) :
      Saves archive scene (chat :: others) last after

theorem Saves.last_saves {earlier : List ChatState} {last : Archive}
    {scene after : Scene ArchiveFiles}
    (saves : archive.Saves scene (earlier ++ [chat]) last after) :
    ∃ (before : Archive) (middle : Scene ArchiveFiles),
      (before.save chat).perform middle = (.ok (.ok (), last), after) := by
  induction earlier generalizing archive scene with
  | nil =>
      cases saves with
      | next saves rest =>
          cases rest
          exact ⟨_, _, saves⟩
  | cons first earlier ih =>
      cases saves with
      | next _ rest => exact ih rest

/-- States that can be stored are saved one after the other. -/
theorem saves_of_storable {states : List ChatState} (each : ∀ state ∈ states, state.Storable)
    (isOpen : archive.isOpen = true) (scene : Scene ArchiveFiles) {committed : Tables}
    (seen : archive.current scene.world = ⟨committed, none⟩) :
    ∃ last after, archive.Saves scene states last after := by
  induction states generalizing archive scene committed with
  | nil => exact ⟨archive, scene, .done archive scene⟩
  | cons chat others ih =>
      obtain ⟨journal, saves⟩ := perform_save isOpen (each chat List.mem_cons_self) scene seen
      have others_storable : ∀ state ∈ others, state.Storable :=
        fun state member => each state (List.mem_cons_of_mem chat member)
      have now := current_written archive ⟨chat.snapshot, none⟩ scene.world
      have staysOpen : Archive.isOpen { archive with database := ⟨chat.snapshot, none⟩ } = true :=
        isOpen
      obtain ⟨last, after, rest⟩ := ih others_storable staysOpen ⟨_, journal⟩ now
      exact ⟨last, after, .next saves rest⟩

/-- **After any saves an archive holds exactly the last state.** -/
theorem holds_last_saved {earlier : List ChatState} (textual : chat.Textual) {last : Archive}
    {scene after : Scene ArchiveFiles}
    (saves : archive.Saves scene (earlier ++ [chat]) last after) : last.Holds after chat := by
  obtain ⟨before, middle, performed⟩ := saves.last_saves
  obtain ⟨storable, isOpen, seen⟩ := perform_save_leaves textual performed
  exact holds_of_current storable isOpen seen

/-- A state with two sessions, registered against the order of their identifiers, and a memory. -/
def small : ChatState where
  registry := ((Registry.empty (.integer 10) (.text "default")).register
    ⟨.text "second", .default, [⟨.user, .text "hi"⟩, ⟨.assistant, .text "ok"⟩]⟩).register
    ⟨.text "default", .default, [⟨.user, .text "bye"⟩]⟩
  memory := ⟨[⟨.text "hi", [Floating.ofInt .single 1]⟩]⟩

theorem sessions_small : small.registry.sessions =
    [⟨.text "second", .default, [⟨.user, .text "hi"⟩, ⟨.assistant, .text "ok"⟩]⟩,
      ⟨.text "default", .default, [⟨.user, .text "bye"⟩]⟩] := by
  rfl

theorem storable_small : small.Storable where
  sound := by
    have first : Session.Sound ⟨.text "second", .default,
        [⟨.user, .text "hi"⟩, ⟨.assistant, .text "ok"⟩]⟩ := ⟨by decide, nofun⟩
    have second : Session.Sound ⟨.text "default", .default, [⟨.user, .text "bye"⟩]⟩ :=
      ⟨by decide, nofun⟩
    refine Registry.Sound.register (Registry.Sound.register ?_ ?_ first) ?_ second
    · exact Registry.sound_empty _ _
    · exact trivial
    · exact trivial
  ids := by
    rw [sessions_small]
    simp [Column.keeps_text]
  windows := by
    rw [sessions_small]
    simp [Window.default]
  contents := by
    rw [sessions_small]
    simp [Column.keeps_text]
  texts := by
    simp [small, Column.keeps_text]

theorem textual_small : small.Textual where
  sound := storable_small.sound
  contents := by
    rw [sessions_small]
    simp [Value.IsString]
  texts := by
    simp [small, Value.IsString]

/-- A small state is saved after another one. -/
theorem holds_small :
    ∃ last after, Saves ⟨inMemory, none, true, ⟨.empty, none⟩⟩ ⟨.empty, .empty⟩
        ([⟨.empty (.integer 1) (.text "main"), .empty⟩] ++ [small]) last after ∧
      last.Holds after small := by
  have each : ∀ state ∈ [⟨.empty (.integer 1) (.text "main"), .empty⟩] ++ [small],
      state.Storable := by
    intro state member
    rcases List.mem_append.mp member with first | second
    · rw [List.mem_singleton.mp first]
      exact ⟨Registry.sound_empty _ _, nofun, nofun, nofun, nofun⟩
    · exact List.mem_singleton.mp second ▸ storable_small
  have blank : current ⟨inMemory, none, true, ⟨.empty, none⟩⟩ .empty = ⟨.empty, none⟩ := rfl
  obtain ⟨last, after, saves⟩ := saves_of_storable each rfl ⟨.empty, .empty⟩ blank
  exact ⟨last, after, saves, holds_last_saved textual_small saves⟩

end Archive

end RecallChat
