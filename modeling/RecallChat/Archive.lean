import RecallChat.Archive.Tables
import RecallChat.FileSystem

/-!
# Archives

An archive keeps one snapshot of a conversation's state in a database.  Saving replaces the snapshot
inside a transaction: a fault of the database takes everything back, while a fault from elsewhere
leaves the transaction open.  Restoring merges the snapshot into a state: sessions replace those of
the same identifier, memories are added at the end.
-/

namespace RecallChat

set_option autoImplicit false

/-- A database: what was committed, and what an open transaction has made of it. -/
structure Database where
  committed : Tables
  working : Option Tables

/-- A step on a database that may fail. -/
abbrev Query (α : Type) := ExceptT Fault (StateM Database) α

namespace Query

/-- The outcome of a step and the database it leaves. -/
def perform {α : Type} (query : Query α) (database : Database) : Except Fault α × Database :=
  Id.run (StateT.run (ExceptT.run query) database)

end Query

namespace Database

/-- The tables as statements see them. -/
def tables (database : Database) : Tables := database.working.getD database.committed

/-- The database with its visible tables replaced. -/
def withTables (database : Database) (tables : Tables) : Database :=
  match database.working with
  | some _ => { database with working := some tables }
  | none => { database with committed := tables }

/-- Starts a transaction; there can be only one. -/
def begin : Query Unit := do
  let database ← get
  if database.working.isSome then
    throw (.outside .transaction "cannot start a transaction within a transaction")
  set { database with working := some database.committed }

/-- Makes what the transaction has done last. -/
def commit : Query Unit := modify fun database => ⟨database.tables, none⟩

/-- Takes back what the transaction has done. -/
def rollback : Query Unit := modify fun database => ⟨database.committed, none⟩

/-- Changes the visible tables. -/
def update (f : Tables → Except Fault Tables) : Query Unit := do
  let database ← get
  match f database.tables with
  | .ok tables => set (database.withTables tables)
  | .error fault => throw fault

/-- Whether a fault comes from the database. -/
def isOwnFault : Fault → Bool
  | .outside kind _ =>
    kind == .conversion || kind == .invalidInput || kind == .constraint || kind == .connection
      || kind == .cannotOpen || kind == .transaction
  | _ => false

/-! ## Snapshots -/

/-- Writes the rows of a state into empty tables: sessions, then messages, then memories. -/
def insertAll (chat : ChatState) : Query Unit := do
  let sessions := chat.registry.sessions
  sessions.forM fun session => update fun tables => tables.insertSession session
  sessions.forM fun session =>
    session.messages.zipIdx.forM fun (message, position) =>
      update fun tables => tables.insertMessage session.id position message
  chat.memory.entries.zipIdx.forM fun (entry, position) =>
    update fun tables => tables.insertMemory position entry

/-- The statements of a save between the start of its transaction and its end. -/
def replaceAll (chat : ChatState) : Query Unit := do
  update fun tables => .ok { tables with messages := [] }
  update fun tables => .ok { tables with sessions := [] }
  update fun tables => .ok { tables with memories := [] }
  insertAll chat
  commit

/-- Performs the statements of a transaction after its start.  A fault of the database takes back
what they have done; any other fault leaves the transaction open. -/
def transaction (body : Query Unit) : Query Unit := do
  begin
  let outcome ← (fun database => (body.perform database).map Except.ok id)
  match outcome with
  | .ok _ => return
  | .error fault =>
    if isOwnFault fault then rollback
    throw fault

/-- Replaces the snapshot. -/
def save (chat : ChatState) : Query Unit := transaction (replaceAll chat)

/-- Merges the snapshot into a state, and returns the numbers of sessions and memories.  The
sessions are registered before the memories are added. -/
def restoreInto (tables : Tables) (chat : ChatState) : Except Fault (Nat × Nat) × ChatState :=
  match tables.sessionRecords with
  | .error fault => (.error fault, chat)
  | .ok records =>
    match chat.registry.restore records with
    | (.error fault, registry) => (.error fault, { chat with registry := registry })
    | (.ok sessions, registry) =>
      match chat.memory.extend tables.memoryRecords with
      | .error fault => (.error fault, { chat with registry := registry })
      | .ok (memories, memory) => (.ok (sessions, memories), ⟨registry, memory⟩)

end Database

/-! ## Archives in a file or in memory -/

/-- The connection of an archive. -/
structure Archive where
  /-- The path as it was given, which is how the archive shows. -/
  path : String
  /-- The place of the database; there is none for one that no other archive can share. -/
  place : Option Place
  isOpen : Bool
  database : Database

/-- The files in which archives are kept. -/
abbrev ArchiveFiles := FileSystem Tables

namespace Archive

/-- The name under which archives log. -/
def logSource : String := "tierchat.archive"

/-- The path of an archive that is kept in memory. -/
def inMemory : String := ":memory:"

/-- The fault of a path at which no database can be opened. -/
def cannotOpen (path : String) : Fault :=
  .outside .cannotOpen ("Cannot open database " ++ Text.quoted path)

/-- The committed tables of the database file at a path, made if it is new. -/
def openFile (files : ArchiveFiles) (path : String) :
    Except Fault (Place × Tables × ArchiveFiles) :=
  match files.openForAppend (.ofText path) with
  | .error _ => .error (cannotOpen path)
  | .ok (place, opened) =>
    match opened.entry? place with
    | some (.database tables) => .ok (place, tables, opened)
    | some (.file content) =>
      if content.isEmpty then .ok (place, .empty, opened.set place (.database .empty))
      else .error (cannotOpen path)
    | _ => .error (cannotOpen path)

/-- The place of the shared database in memory of a path.  No path of a file leads there. -/
def memoryPlace (path : String) : Place := [[], .ofString path]

/-- Whether a place is that of a database in memory. -/
def isMemoryPlace (place : Place) : Bool := place.head? == some []

/-- Whether a path starts with the name of a kind of database of its own: two or more letters,
digits or underscores before a colon without two slashes after it. -/
def namesOtherKind (path : String) : Bool :=
  let start := path.toList.takeWhile fun c => c.isAlphanum || c == '_'
  match path.toList.drop start.length with
  | ':' :: '/' :: '/' :: _ => false
  | ':' :: _ => 2 ≤ start.length
  | _ => false

/-- Whether a path can only lead to a directory, because it ends in a slash or a dot. -/
def namesDirectory (path : String) : Bool :=
  match path.toList.reverse with
  | '/' :: _ | '.' :: '/' :: _ => true
  | _ => false

/-- The committed tables of the database that a path leads to, and its place. -/
def openShared (files : ArchiveFiles) (path : String) :
    Except Fault (Place × Tables × ArchiveFiles) :=
  if path.startsWith inMemory then
    let place := memoryPlace path
    match files.entry? place with
    | some (.database tables) => .ok (place, tables, files)
    | _ => .ok (place, .empty, files.set place (.database .empty))
  else
    let path := String.ofList (path.toList.takeWhile (· != '\x00'))
    if namesOtherKind path || namesDirectory path then .error (cannotOpen path)
    else openFile files path

/-- Opens an archive.  One in memory is shared with other archives if its path says more than
that. -/
def openAt (path : String) : Action ArchiveFiles Archive := do
  if path = inMemory ∨ path = "" then return ⟨path, none, true, ⟨.empty, none⟩⟩
  let (place, tables, files) ← Action.ofExcept (openShared (← Action.world) path)
  Action.setWorld files
  return ⟨path, some place, true, ⟨tables, none⟩⟩

/-- The files without the databases in memory that none of the given archives uses. -/
def forgetUnused (archives : List Archive) (files : ArchiveFiles) : ArchiveFiles :=
  let isUsed (place : Place) : Bool :=
    archives.any fun archive => archive.isOpen && archive.place == some place
  ⟨files.entries.filter fun entry => !isMemoryPlace entry.1 || isUsed entry.1⟩

/-- The database of an archive; the committed tables of a file are those in the file. -/
def current (archive : Archive) (files : ArchiveFiles) : Database :=
  match archive.place.bind files.entry? with
  | some (.database tables) => { archive.database with committed := tables }
  | _ => archive.database

/-- Performs a step on the database of an archive, if it is open. -/
def query {α : Type} (archive : Archive) (step : Query α) :
    Action ArchiveFiles (Except Fault α × Archive) := do
  if !archive.isOpen then
    return (.error (.outside .connection "Connection already closed"), archive)
  let (outcome, database) := step.perform (archive.current (← Action.world))
  if let some place := archive.place then
    Action.change fun files => files.set place (.database database.committed)
  return (outcome, { archive with database := database })

/-- Closes an archive; what an open transaction has done is lost. -/
def close (archive : Archive) : Archive :=
  { archive with isOpen := false, database := ⟨archive.database.committed, none⟩ }

/-- Closes an archive that shares its database with no other. -/
def closeAlone (archive : Archive) : Action ArchiveFiles Archive := do
  Action.change (forgetUnused [])
  return archive.close

/-- A number of sessions and of memories in words. -/
def amounts (sessions memories : Nat) : String :=
  toString sessions ++ " sessions and " ++ toString memories ++ " memories"

/-- Replaces the snapshot by a state. -/
def save (archive : Archive) (chat : ChatState) :
    Action ArchiveFiles (Except Fault Unit × Archive) := do
  let (outcome, archive) ← archive.query (Database.save chat)
  if let .ok _ := outcome then
    Action.log .info logSource
      (.ofString ("Archived " ++ amounts chat.registry.size chat.memory.size ++ " to " ++
        archive.path))
  return (outcome, archive)

/-- Merges the snapshot into a state. -/
def restore (archive : Archive) (chat : ChatState) :
    Action ArchiveFiles (Except Fault Unit × ChatState) := do
  match ← archive.query (Database.tables <$> get) with
  | (.error fault, _) => return (.error fault, chat)
  | (.ok tables, _) =>
    match Database.restoreInto tables chat with
    | (.error fault, chat) => return (.error fault, chat)
    | (.ok (sessions, memories), chat) =>
      Action.log .info logSource
        (.ofString ("Restored " ++ amounts sessions memories ++ " from " ++ archive.path))
      return (.ok (), chat)

/-- The number of rows of each table. -/
def count (archive : Archive) : Action ArchiveFiles (Except Fault RowCounts) := do
  return (← archive.query ((fun database => database.tables.counts) <$> get)).1

end Archive

end RecallChat
