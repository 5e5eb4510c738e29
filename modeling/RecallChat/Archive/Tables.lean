import RecallChat.Archive.Column
import RecallChat.Conversation

/-!
# The tables of an archive

Three tables hold a snapshot: the sessions, their messages by position, and the memories by
position.  Every column but a vector has to have a value, and a session's identifier occurs once.  A
vector, or a number in it, can be missing.
`sessionRecords` and `memoryRecords` read a snapshot back, sessions in the order of their
identifiers.
-/

namespace RecallChat

set_option autoImplicit false

/-- A stored session. -/
structure SessionRow where
  id : String
  maxHistory : Int
  deriving DecidableEq

/-- A stored message. -/
structure MessageRow where
  sessionId : String
  position : Int
  role : String
  content : String
  deriving DecidableEq

/-- A stored memory. -/
structure MemoryRow where
  position : Int
  text : String
  vector : Option (List (Option Single))
  deriving DecidableEq

/-- The contents of an archive. -/
structure Tables where
  sessions : List SessionRow
  messages : List MessageRow
  memories : List MemoryRow
  deriving DecidableEq

/-- How many rows each table of an archive has. -/
structure RowCounts where
  sessions : Nat
  messages : Nat
  memories : Nat
  deriving DecidableEq, Repr

namespace Tables

/-- Tables without rows. -/
def empty : Tables := ⟨[], [], []⟩

instance : Inhabited Tables := ⟨empty⟩

/-- The number of rows of each table. -/
def counts (tables : Tables) : RowCounts :=
  ⟨tables.sessions.length, tables.messages.length, tables.memories.length⟩

/-! ## Rows -/

/-- The tables with a session added. -/
def insertSession (tables : Tables) (session : Session) : Except Fault Tables := do
  let id ← Column.text? session.id
  let maxHistory ← Column.integer session.window.toValue
  let id ← Column.required id
  if tables.sessions.any fun row => row.id == id then
    throw (.outside .constraint "two sessions of one identifier")
  return { tables with sessions := tables.sessions ++ [⟨id, maxHistory⟩] }

/-- The tables with a message added. -/
def insertMessage (tables : Tables) (sessionId : Value) (position : Nat) (message : Message) :
    Except Fault Tables := do
  let id ← Column.text? sessionId
  let content ← Column.text? message.content
  let row : MessageRow :=
    ⟨← Column.required id, position, message.role.name, ← Column.required content⟩
  return { tables with messages := tables.messages ++ [row] }

/-- The tables with a memory added. -/
def insertMemory (tables : Tables) (position : Nat) (entry : MemoryEntry) :
    Except Fault Tables := do
  let text ← Column.required (← Column.text? entry.text)
  return { tables with
    memories := tables.memories ++ [⟨position, text, some (entry.vector.map some)⟩] }

/-! ## Reading back -/

/-- The sessions in the order of their identifiers. -/
def sortedSessions (tables : Tables) : List SessionRow :=
  tables.sessions.mergeSort fun a b => decide (a.id ≤ b.id)

/-- The messages in the order of their sessions' identifiers and of their positions. -/
def sortedMessages (tables : Tables) : List MessageRow :=
  tables.messages.mergeSort fun a b =>
    decide (a.sessionId < b.sessionId) ||
      (a.sessionId == b.sessionId && decide (a.position ≤ b.position))

/-- The memories in the order of their positions. -/
def sortedMemories (tables : Tables) : List MemoryRow :=
  tables.memories.mergeSort fun a b => decide (a.position ≤ b.position)

/-- A stored message as a value of a record. -/
def messageValue (row : MessageRow) : Value :=
  .map [(.text "role", .text row.role), (.text "content", .text row.content)]

/-- A stored session with its messages as a record. -/
def sessionRecord (messages : List MessageRow) (row : SessionRow) : SessionRecord :=
  let own := messages.filter fun message => message.sessionId == row.id
  ⟨some (.text row.id), some (.integer row.maxHistory), some (.list (own.map messageValue))⟩

/-- The stored sessions as records; a message without a session is a fault. -/
def sessionRecords (tables : Tables) : Except Fault (List SessionRecord) :=
  let messages := tables.sortedMessages
  let isOrphan (message : MessageRow) : Bool :=
    !tables.sessions.any fun row => row.id == message.sessionId
  match messages.find? isOrphan with
  | some orphan => .error (.missingKey orphan.sessionId)
  | none => .ok (tables.sortedSessions.map (sessionRecord messages))

/-- A number of a stored vector. -/
def numberValue : Option Single → Value
  | some x => .real (x.convert .double)
  | none => .null

/-- A stored memory as a record; a missing vector is an empty one. -/
def memoryRecord (row : MemoryRow) : MemoryRecord :=
  ⟨some (.text row.text), some (.list ((row.vector.getD []).map numberValue))⟩

/-- The stored memories as records. -/
def memoryRecords (tables : Tables) : List MemoryRecord := tables.sortedMemories.map memoryRecord

end Tables

end RecallChat
