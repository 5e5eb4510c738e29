import RecallChat.Action
import RecallChat.FileSystem
import RecallChat.Text.Casing
import RecallChat.Value

/-!
# Log files

Accepted records can also be written to files, one line each.  Setting up a file makes its
directories, sets the level of the whole journal, and opens the file under the absolute text of its
path; a file that was set up before is closed first, so that it is opened again instead of being
written twice.  Whether it was set up before is decided by paths: the path that the text of an open
file denotes is compared with the path that is asked for, resolved.  The steps are taken in this
order and none is taken back, so a file that cannot be opened leaves the level changed.

A file is written in bytes that surrogates do not have, so a record with a surrogate in it is
accepted, but not written.
-/

namespace RecallChat

open RecallChat.Text

set_option autoImplicit false

/-- A file that is open for log records. -/
structure LogOutlet where
  /-- The absolute text under which the file was opened. -/
  file : CodePoints
  place : Place
  deriving DecidableEq, Repr

/-- The level that was set last, and the files that records are written to. -/
structure LogOutlets where
  level : Value := .integer 10
  handlers : List LogOutlet := []

/-- Files, some of which log records are written to. -/
structure Logging (δ : Type) where
  files : FileSystem δ
  outlets : LogOutlets

/-- What stands for the time of a record; the library keeps no clock of its own. -/
def timeMark : String := "<time>"

namespace LogRecord

/-- A level's name, filled up with spaces to eight characters. -/
def paddedLevel (name : String) : String :=
  name ++ String.ofList (List.replicate (8 - name.length) ' ')

/-- A line of a log file. -/
def line (level : Level) (source message : String) : String :=
  timeMark ++ " | " ++ paddedLevel level.name ++ " | " ++ source ++ " | " ++ message ++ "\n"

/-- The bytes of a record in a log file; a record with a surrogate in it has none. -/
def bytes (record : LogRecord) : ByteArray :=
  match record.source.toString?, record.message.toString? with
  | some source, some message => (line record.level source message).toUTF8
  | _, _ => .empty

end LogRecord

namespace LogOutlets

variable {δ : Type}

/-- The places of the open files. -/
def places (outlets : LogOutlets) : List Place := outlets.handlers.map LogOutlet.place

/-- Files after some records were written to every outlet. -/
def deliver (outlets : LogOutlets) (records : List LogRecord) (files : FileSystem δ) :
    FileSystem δ :=
  files.appendAll outlets.places
    (records.foldl (fun bytes record => bytes ++ record.bytes) .empty)

/-- The outlets without those for the file of a path. -/
def close (outlets : LogOutlets) (path : Path) : LogOutlets :=
  { outlets with handlers := outlets.handlers.filter fun outlet =>
      Path.ofPoints outlet.file != FileSystem.resolved path }

/-- The outlets with one more at the end. -/
def add (outlets : LogOutlets) (outlet : LogOutlet) : LogOutlets :=
  { outlets with handlers := outlets.handlers ++ [outlet] }

end LogOutlets

namespace LogFile

variable {δ : Type}

/-- The level that is used where none is given. -/
def defaultLevel : Value := .integer Level.info.rank

/-- The rank of a level given by name or number. -/
def rankOf : Value → Except Fault Int
  | .text name =>
    match Level.ofName? (Text.uppered name) with
    | some level => .ok level.rank
    | none => .error (.config (.unknownLogLevel name))
  | .illFormed points => .error (.config (.unknownLogLevel points.replaced))
  | .integer rank => .ok rank
  | .boolean value => .ok (if value then 1 else 0)
  | other => .error (.wrongType ("no level can be of kind " ++ other.kindName))

/-- The level as it is kept: a name gives its rank, a number stays as it is. -/
def keptLevel (level : Value) (rank : Int) : Value :=
  match level with
  | .boolean value => .boolean value
  | _ => .integer rank

/-- Sets the level of the journal. -/
def setLevel (level : Value) : Action (Logging δ) Unit := do
  let rank ← Action.ofExcept (rankOf level)
  modify fun scene =>
    { world := { scene.world with
        outlets := { scene.world.outlets with level := keptLevel level rank } }
      journal := { scene.journal with threshold := Journal.thresholdOf rank } }

/-- Opens the file of a path for log records, again if it is open already. -/
def openOutlet (path : Path) : Action (Logging δ) Unit := do
  Action.change fun world => { world with outlets := world.outlets.close path }
  let file := FileSystem.absolutePoints path.points
  match (← Action.world).files.openForAppend (.ofPoints file) with
  | .error trouble => throw (trouble.fault file)
  | .ok (place, files) =>
    Action.change fun world => ⟨files, world.outlets.add ⟨file, place⟩⟩

/-- Makes the directory of a path, and those above it. -/
def makeParents (path : Path) : Action (Logging δ) Unit := do
  match (← Action.world).files.makeDirectories path.parent with
  | .error trouble => throw (trouble.fault path.parent.points)
  | .ok files => Action.change fun world => { world with files := files }

/-- Sets up a log file, and the level of all records with it. -/
def setUp (path level : Value) : Action (Logging δ) Unit := do
  let target ← Action.ofExcept path.toPath
  makeParents target
  setLevel level
  openOutlet target

/-- Writes a record to the journal and to the log files; records of other libraries are left out. -/
def emit (level : Level) (source message : CodePoints) : Action (Logging δ) Unit := do
  if isLibrarySource source && (← get).journal.accepts level.rank then
    let record : LogRecord := ⟨level, source, message⟩
    modify fun scene =>
      { world := { scene.world with
          files := scene.world.outlets.deliver [record] scene.world.files }
        journal := scene.journal.write record }

end LogFile

end RecallChat
