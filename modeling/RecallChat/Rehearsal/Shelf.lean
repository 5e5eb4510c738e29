import RecallChat.Rehearsal.Stage

/-!
# Shelves, handles and streams by name

Worlds in which several things of one kind are kept under names: archives with the states that are
saved to them, session handles, and open streams.
-/

namespace RecallChat.Rehearsal

set_option autoImplicit false

/-- Archives and states by name, over one file system. -/
structure Shelf where
  files : ArchiveFiles
  archives : List (String × Archive)
  states : List (String × ChatState)

/-- A state without sessions and memories. -/
def freshState : ChatState := ⟨Registry.standard, Memory.empty⟩

/-- A state with one turn added. -/
def withTurn (chat : ChatState) (id user assistant : Value) : Except Fault ChatState :=
  (chat.registry.getOrCreate id).map fun (handle, registry) =>
    { chat with registry := registry.addTurn handle user assistant }

/-- A state with turns added one after the other, up to the first fault. -/
def withTurns (chat : ChatState) : List (Value × Value × Value) → Except Fault Unit × ChatState
  | [] => (.ok (), chat)
  | (id, user, assistant) :: rest =>
    match withTurn chat id user assistant with
    | .error fault => (.error fault, chat)
    | .ok chat => withTurns chat rest

/-- A state with session records restored and then memory records added, up to the first fault. -/
def withRecords (chat : ChatState) (sessions : List SessionRecord) (memories : List MemoryRecord) :
    Except Fault Unit × ChatState :=
  match chat.registry.restore sessions with
  | (.error fault, registry) => (.error fault, { chat with registry := registry })
  | (.ok _, registry) =>
    match chat.memory.extend memories with
    | .error fault => (.error fault, { chat with registry := registry })
    | .ok (_, memory) => (.ok (), ⟨registry, memory⟩)

namespace Shelf

/-- An empty shelf. -/
def empty : Shelf := ⟨.empty, [], []⟩

/-- The state of a name, fresh on first use. -/
def state (shelf : Shelf) (name : String) : ChatState := (named? shelf.states name).getD freshState

/-- The archive of a name. -/
def archive (name : String) : Action Shelf Archive := do
  match named? (← Action.world).archives name with
  | some archive => return archive
  | none => throw (.missingKey name)

/-- An action on the files of the shelf. -/
def onFiles {α : Type} (action : Action ArchiveFiles α) : Action Shelf α :=
  action.within Shelf.files fun files shelf => { shelf with files := files }

/-- Puts an archive under a name; the one that had the name is closed with that. -/
def setArchive (name : String) (archive : Archive) : Action Shelf Unit :=
  Action.change fun shelf =>
    let archives := setNamed shelf.archives name archive
    { shelf with
      archives := archives
      files := Archive.forgetUnused (archives.map Prod.snd) shelf.files }

/-- Puts a state under a name. -/
def setState (name : String) (chat : ChatState) : Action Shelf Unit :=
  Action.change fun shelf => { shelf with states := setNamed shelf.states name chat }

/-- Opens an archive under a name. -/
def openArchive (name path : String) : Action Shelf Unit := do
  setArchive name (← onFiles (Archive.openAt path))

/-- Closes the archive of a name. -/
def closeArchive (name : String) : Action Shelf Unit := do
  setArchive name (← archive name).close

/-- Opens an archive, counts its rows and closes it again. -/
def visitArchive (name path : String) : Action Shelf RowCounts := do
  let archive ← onFiles (Archive.openAt path)
  let counts ← onFiles archive.count
  setArchive name archive.close
  Action.ofExcept counts

/-- Saves a state to an archive. -/
def save (name stateName : String) : Action Shelf Unit := do
  let chat := (← Action.world).state stateName
  let (outcome, archive) ← onFiles ((← archive name).save chat)
  setArchive name archive
  Action.ofExcept outcome

/-- Restores an archive into a state. -/
def restore (name stateName : String) : Action Shelf Unit := do
  let chat := (← Action.world).state stateName
  let (outcome, chat) ← onFiles ((← archive name).restore chat)
  setState stateName chat
  Action.ofExcept outcome

/-- The number of rows of an archive's tables. -/
def count (name : String) : Action Shelf RowCounts := do
  Action.ofExcept (← onFiles (← archive name).count)

/-- Fills a state with turns, then session records, then memory records. -/
def fill (stateName : String) (turns : List (Value × Value × Value))
    (sessions : List SessionRecord) (memories : List MemoryRecord) : Action Shelf Unit := do
  match withTurns ((← Action.world).state stateName) turns with
  | (.error fault, chat) =>
    setState stateName chat
    throw fault
  | (.ok _, chat) =>
    let (outcome, chat) := withRecords chat sessions memories
    setState stateName chat
    Action.ofExcept outcome

end Shelf

/-! ## Things under keys -/

/-- What is kept under a key. -/
def keptUnder {α : Type} (key : Value) (entries : List (Value × α)) : Except Fault α :=
  if !key.isHashable then .error (.wrongType "a collection is no key")
  else
    match entries.find? fun entry => entry.1.sameKey key with
    | some entry => .ok entry.2
    | none => .error (.outside .missingKey key.shown)

/-- Keeps something under a key. -/
def keepUnder {α : Type} (key : Value) (thing : α) (entries : List (Value × α)) :
    List (Value × α) :=
  (key, thing) :: entries.filter fun entry => !entry.1.sameKey key

/-! ## Handles -/

/-- A registry with handles that are kept under keys. -/
structure Handles where
  registry : Registry
  handles : List (Value × Handle)

namespace Handles

/-- Puts another registry in place of the present one. -/
def setRegistry (registry : Registry) : Action Handles Unit :=
  Action.change fun world => { world with registry := registry }

/-- The handle under a key. -/
def handle (key : Value) : Action Handles Handle := do
  Action.ofExcept (keptUnder key (← Action.world).handles)

/-- The handle of the session of an identifier, created if it is not there yet. -/
def getOrCreate (id : Value) : Action Handles Handle := do
  let (handle, registry) ← Action.ofExcept ((← Action.world).registry.getOrCreate id)
  setRegistry registry
  return handle

/-- The session of an identifier, whose handle is kept under a key, or else under the identifier of
the session. -/
def keep (id : Value) (key : Option Value) : Action Handles Session := do
  let handle ← getOrCreate id
  let session := (← Action.world).registry.session handle
  let key := key.getD session.id
  Action.change fun world => { world with handles := keepUnder key handle world.handles }
  return session

end Handles

/-! ## Streams -/

/-- A stage with streams that are kept under keys; a guarded one heeds the cancel event. -/
structure Streams where
  stage : Stage
  streams : List (Value × Stream × Bool)

namespace Streams

/-- An action on the stage. -/
def onStage {α : Type} (action : Action Stage α) : Action Streams α :=
  action.within Streams.stage fun stage world => { world with stage := stage }

/-- Puts a stream under a key. -/
def put (key : Value) (stream : Stream) (guarded : Bool) : Action Streams Unit :=
  Action.change fun world =>
    { world with streams := keepUnder key (stream, guarded) world.streams }

/-- Sets or clears the cancel event. -/
def setCancelled (cancelled : Bool) : Action Streams Unit :=
  Action.change fun world => { world with stage := { world.stage with cancelled := cancelled } }

/-- The cancel event as far as a call is guarded by it. -/
def event (guarded : Bool) : Action Stage Bool :=
  if guarded then Stage.isCancelled else pure false

/-- The next piece of a stream, if there is one more. -/
def next (generator : Generator Stage) (key : Value) : Action Streams (Option String) := do
  let (stream, guarded) ← Action.ofExcept (keptUnder key (← Action.world).streams)
  let (outcome, after) ← onStage (generator.next (event guarded) stream)
  put key after guarded
  Action.ofExcept outcome

/-- Closes a stream. -/
def close (key : Value) : Action Streams Unit := do
  let _ ← Action.ofExcept (keptUnder key (← Action.world).streams)
  put key .over false

end Streams

end RecallChat.Rehearsal
