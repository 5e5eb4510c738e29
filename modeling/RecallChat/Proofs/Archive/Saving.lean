import RecallChat.Archive
import RecallChat.Proofs.Archive.Snapshot

/-!
# Saving a snapshot

A transaction starts from what is committed; it ends with what its statements have committed, or
with a fault, which takes them back if it is the database's own (`perform_transaction`).  Inside a
transaction a query leads from one state of the working tables to another (`Loads`), and a loop adds
the rows of its items one after the other (`loads_forM`).  So saving a state that can be stored ends
the transaction with exactly its snapshot committed, whatever was stored before (`perform_save`).
-/

set_option autoImplicit false

namespace RecallChat

/-! ## Queries -/

namespace Query

variable {α β : Type}

/-- A composed query goes on from where its first part ended, unless that was a fault. -/
theorem perform_bind (query : Query α) (next : α → Query β) (database : Database) :
    (query >>= next).perform database =
      match query.perform database with
      | (.ok value, after) => (next value).perform after
      | (.error fault, after) => (.error fault, after) := by
  have unfolded : (query >>= next).perform database =
      (ExceptT.bindCont next (query.perform database).1) (query.perform database).2 := rfl
  rw [unfolded]
  rcases query.perform database with ⟨_ | _, after⟩ <;> rfl

theorem perform_bind_of_ok {query : Query α} {next : α → Query β} {database after : Database}
    {value : α} (first : query.perform database = (.ok value, after)) :
    (query >>= next).perform database = (next value).perform after := by
  rw [perform_bind, first]

/-- A composed query has a result when its first part has one and the rest has it from there. -/
theorem perform_bind_eq_ok {query : Query α} {next : α → Query β} {database after : Database}
    {result : β} :
    (query >>= next).perform database = (.ok result, after) ↔
      ∃ value middle, query.perform database = (.ok value, middle) ∧
        (next value).perform middle = (.ok result, after) := by
  rw [perform_bind]
  constructor
  · intro composed
    rcases first : query.perform database with ⟨_ | value, middle⟩
    · rw [first] at composed
      cases composed
    · rw [first] at composed
      exact ⟨value, middle, rfl, composed⟩
  · rintro ⟨value, middle, first, rest⟩
    rw [first]
    exact rest

end Query

namespace Database

/-! ## Transactions -/

/-- A transaction starts where none is open, and its end depends on its statements. -/
theorem perform_transaction (body : Query Unit) (committed : Tables) :
    (transaction body).perform ⟨committed, none⟩ =
      match body.perform ⟨committed, some committed⟩ with
      | (.ok _, after) => (.ok (), after)
      | (.error fault, after) =>
        (.error fault, if isOwnFault fault then ⟨after.committed, none⟩ else after) := by
  have began : begin.perform ⟨committed, none⟩ = (.ok (), ⟨committed, some committed⟩) := rfl
  have tried : ∀ database, Query.perform
      (fun database => (body.perform database).map Except.ok id : Query (Except Fault Unit))
      database = (.ok (body.perform database).1, (body.perform database).2) := fun _ => rfl
  unfold transaction
  rw [Query.perform_bind_of_ok began, Query.perform_bind_of_ok (tried _)]
  rcases body.perform ⟨committed, some committed⟩ with ⟨fault | _, after⟩
  · dsimp only
    split <;> rfl
  · rfl

/-- The fault of a transaction within a transaction. -/
def withinTransaction : Fault :=
  .outside .transaction "cannot start a transaction within a transaction"

theorem perform_transaction_of_open (body : Query Unit) (committed working : Tables) :
    (transaction body).perform ⟨committed, some working⟩ =
      (.error withinTransaction, ⟨committed, some working⟩) := rfl

/-! ## Loading -/

/-- That a query, inside a transaction, leads from one state of the working tables to another. -/
def Loads (query : Query Unit) (before after : Tables) : Prop :=
  ∀ committed, query.perform ⟨committed, some before⟩ = (.ok (), ⟨committed, some after⟩)

theorem loads_pure (tables : Tables) : Loads (pure ()) tables tables := fun _ => rfl

theorem Loads.bind {query next : Query Unit} {before middle after : Tables}
    (first : Loads query before middle) (second : Loads next middle after) :
    Loads (query >>= fun _ => next) before after :=
  fun committed => (Query.perform_bind_of_ok (first committed)).trans (second committed)

theorem loads_update {f : Tables → Except Fault Tables} {before after : Tables}
    (changed : f before = .ok after) : Loads (update f) before after := by
  intro committed
  have read : Query.perform get ⟨committed, some before⟩ =
      (.ok ⟨committed, some before⟩, ⟨committed, some before⟩) := rfl
  have seen : f (tables ⟨committed, some before⟩) = .ok after := changed
  unfold update
  rw [Query.perform_bind_of_ok read, seen]
  rfl

/-- A loop leads from what no items make of the tables to what all of them do. -/
theorem loads_forM {ι : Type} (query : ι → Query Unit) (reached : List ι → Tables) (items : List ι)
    (each : ∀ done item rest, items = done ++ item :: rest →
      Loads (query item) (reached done) (reached (done ++ [item]))) :
    Loads (items.forM query) (reached []) (reached items) := by
  have from' : ∀ rest done, items = done ++ rest →
      Loads (rest.forM query) (reached done) (reached items) := by
    intro rest
    induction rest with
    | nil =>
        intro done split
        rw [split, List.append_nil]
        exact loads_pure _
    | cons item rest ih =>
        intro done split
        have split' : items = (done ++ [item]) ++ rest := by
          rw [split, List.append_assoc, List.singleton_append]
        exact (each done item rest split).bind (ih _ split')
  exact from' items [] rfl

/-! ## Rows -/

/-- A window that fits is stored as its size. -/
theorem integer_toValue {session : Session} (sound : session.Sound)
    (fits : session.window.size < 2 ^ 31) :
    Column.integer session.window.toValue = .ok session.window.size := by
  have number : session.window.toValue.number? = some (.integer session.window.size) := by
    unfold Window.toValue
    cases truth : session.window.isTruthValue with
    | false => rfl
    | true => rw [sound.truthValue truth]; rfl
  unfold Column.integer
  rw [number]
  exact if_pos ⟨by omega, by omega⟩

/-- A session under a new identifier becomes a row. -/
theorem insertSession_eq {tables : Tables} {session : Session} (kept : Column.Keeps session.id)
    (sound : session.Sound) (fits : session.window.size < 2 ^ 31)
    (fresh : session.name ∉ tables.sessions.map SessionRow.id) :
    tables.insertSession session =
      .ok { tables with sessions := tables.sessions ++ [session.row] } := by
  have unused : (tables.sessions.any fun row => row.id == session.id.asText) = false := by
    refine List.any_eq_false.mpr fun row member same => fresh ?_
    have named : row.id = session.name := beq_iff_eq.mp same
    exact named ▸ List.mem_map_of_mem member
  unfold Tables.insertSession
  rw [kept.text?_eq, integer_toValue sound fits]
  change (if (tables.sessions.any fun row => row.id == session.id.asText) = true then _ else _) = _
  rw [unused]
  rfl

/-- A message becomes a row. -/
theorem insertMessage_eq {tables : Tables} {session : Session} {placed : Message × Nat}
    (kept : Column.Keeps session.id) (kept' : Column.Keeps placed.1.content) :
    tables.insertMessage session.id placed.2 placed.1 =
      .ok { tables with messages := tables.messages ++ [session.messageRow placed] } := by
  unfold Tables.insertMessage
  rw [kept.text?_eq, kept'.text?_eq]
  rfl

/-- A memory becomes a row. -/
theorem insertMemory_eq {tables : Tables} {placed : MemoryEntry × Nat}
    (kept : Column.Keeps placed.1.text) :
    tables.insertMemory placed.2 placed.1 =
      .ok { tables with memories := tables.memories ++ [MemoryEntry.row placed] } := by
  unfold Tables.insertMemory
  rw [kept.text?_eq]
  rfl

/-! ## Loading the rows of a state -/

section Loading

variable {chat : ChatState} (storable : chat.Storable)

include storable

theorem loads_sessions :
    Loads (chat.registry.sessions.forM fun session =>
        update fun tables => tables.insertSession session)
      .empty ⟨chat.snapshot.sessions, [], []⟩ := by
  refine loads_forM _ (fun done => ⟨done.map Session.row, [], []⟩) _
    fun done session rest split => loads_update ?_
  have member : session ∈ chat.registry.sessions :=
    split ▸ List.mem_append_right done List.mem_cons_self
  have fresh : session.name ∉ (done.map Session.row).map SessionRow.id := by
    have distinct := storable.distinct
    rw [split, List.map_append, List.map_cons, List.nodup_middle] at distinct
    rw [List.map_map]
    exact fun taken => (List.nodup_cons.mp distinct).1 (List.mem_append_left _ taken)
  rw [insertSession_eq (storable.ids session member)
    (storable.sound.of_mem_sessions member).1 (storable.windows session member) fresh]
  rw [List.map_append]
  rfl

/-- The messages of one session are added after those that are there. -/
theorem loads_messagesOf {session : Session} (member : session ∈ chat.registry.sessions)
    (sessions : List SessionRow) (messages : List MessageRow) :
    Loads (session.messages.zipIdx.forM fun (message, position) =>
        update fun tables => tables.insertMessage session.id position message)
      ⟨sessions, messages, []⟩ ⟨sessions, messages ++ session.messageRows, []⟩ := by
  have loads := loads_forM
    (fun placed : Message × Nat =>
      update fun tables => tables.insertMessage session.id placed.2 placed.1)
    (fun done => ⟨sessions, messages ++ done.map session.messageRow, []⟩)
    session.messages.zipIdx fun done placed rest split => loads_update ?_
  · rw [List.map_nil, List.append_nil] at loads
    exact loads
  · have among : placed ∈ session.messages.zipIdx :=
      split ▸ List.mem_append_right done List.mem_cons_self
    have kept := storable.contents session member placed.1 (List.fst_mem_of_mem_zipIdx among)
    rw [insertMessage_eq (storable.ids session member) kept, List.map_append, List.append_assoc]
    rfl

theorem loads_messages (sessions : List SessionRow) :
    Loads (chat.registry.sessions.forM fun session =>
        session.messages.zipIdx.forM fun (message, position) =>
          update fun tables => tables.insertMessage session.id position message)
      ⟨sessions, [], []⟩ ⟨sessions, chat.snapshot.messages, []⟩ := by
  refine loads_forM _ (fun done => ⟨sessions, done.flatMap Session.messageRows, []⟩) _
    fun done session rest split => ?_
  have member : session ∈ chat.registry.sessions :=
    split ▸ List.mem_append_right done List.mem_cons_self
  have loads := loads_messagesOf storable member sessions (done.flatMap Session.messageRows)
  rw [List.flatMap_append, List.flatMap_singleton]
  exact loads

theorem loads_memories (sessions : List SessionRow) (messages : List MessageRow) :
    Loads (chat.memory.entries.zipIdx.forM fun (entry, position) =>
        update fun tables => tables.insertMemory position entry)
      ⟨sessions, messages, []⟩ ⟨sessions, messages, chat.snapshot.memories⟩ := by
  refine loads_forM _ (fun done => ⟨sessions, messages, done.map MemoryEntry.row⟩) _
    fun done placed rest split => loads_update ?_
  have among : placed ∈ chat.memory.entries.zipIdx :=
    split ▸ List.mem_append_right done List.mem_cons_self
  have kept := storable.texts placed.1 (List.fst_mem_of_mem_zipIdx among)
  rw [insertMemory_eq kept, List.map_append]
  rfl

theorem loads_insertAll : Loads (insertAll chat) .empty chat.snapshot :=
  (loads_sessions storable).bind ((loads_messages storable _).bind (loads_memories storable _ _))

/-- The statements of a save lead from any tables to the snapshot, and commit it. -/
theorem perform_replaceAll (committed before : Tables) :
    (replaceAll chat).perform ⟨committed, some before⟩ = (.ok (), ⟨chat.snapshot, none⟩) := by
  have emptied : ∀ next : Query Unit,
      Query.perform (do
        update fun tables => .ok { tables with messages := [] }
        update fun tables => .ok { tables with sessions := [] }
        update fun tables => .ok { tables with memories := [] }
        next) ⟨committed, some before⟩ = next.perform ⟨committed, some .empty⟩ := fun _ => rfl
  unfold replaceAll
  rw [emptied, Query.perform_bind_of_ok (loads_insertAll storable committed)]
  rfl

/-- **Saving replaces whatever was committed by the snapshot of the state.** -/
theorem perform_save (before : Tables) :
    (save chat).perform ⟨before, none⟩ = (.ok (), ⟨chat.snapshot, none⟩) := by
  unfold save
  rw [perform_transaction, perform_replaceAll storable]

end Loading

end Database

end RecallChat
