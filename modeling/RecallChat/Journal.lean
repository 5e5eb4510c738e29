import RecallChat.Text.CodePoints

/-!
# The journal

Log records carry a level, the name of their source and a message; both are texts by code points,
because the names and paths in a message can have surrogates in them.  A journal keeps the records
at or above its threshold, in the order they were written.
-/

namespace RecallChat

open RecallChat.Text

set_option autoImplicit false

/-- The standard levels of log records. -/
structure Level where
  rank : Int
  deriving DecidableEq, Repr

namespace Level

/-- Details for diagnosis. -/
def debug : Level := ⟨10⟩

/-- Ordinary progress. -/
def info : Level := ⟨20⟩

/-- Something went wrong and was dealt with. -/
def warning : Level := ⟨30⟩

/-- Something failed. -/
def error : Level := ⟨40⟩

/-- Nothing can go on. -/
def critical : Level := ⟨50⟩

/-- The names by which a level can be asked for, with their ranks. -/
def named : List (String × Int) :=
  [("CRITICAL", 50), ("FATAL", 50), ("ERROR", 40), ("WARN", 30), ("WARNING", 30), ("INFO", 20),
    ("DEBUG", 10), ("NOTSET", 0)]

/-- The level of a name in capitals. -/
def ofName? (name : String) : Option Level :=
  (named.find? fun entry => entry.1 == name).map fun entry => ⟨entry.2⟩

/-- The name of a level. -/
def name (level : Level) : String :=
  if level.rank = 10 then "DEBUG"
  else if level.rank = 20 then "INFO"
  else if level.rank = 30 then "WARNING"
  else if level.rank = 40 then "ERROR"
  else if level.rank = 50 then "CRITICAL"
  else if level.rank = 0 then "NOTSET"
  else "Level " ++ toString level.rank

end Level

/-- The name that all of the library's sources share. -/
def libraryLogger : String := "tierchat"

/-- Whether a source belongs to the library: it is the shared name, or lies below it. -/
def isLibrarySource (source : CodePoints) : Bool :=
  source == .ofString libraryLogger ||
    (CodePoints.ofString (libraryLogger ++ ".")).isPrefixOf source

/-- One log record. -/
structure LogRecord where
  level : Level
  source : CodePoints
  message : CodePoints
  deriving DecidableEq, Repr

/-- The accepted records, oldest first, and the least rank that is accepted. -/
structure Journal where
  threshold : Int
  records : List LogRecord
  deriving Repr

namespace Journal

/-- An empty journal that accepts details. -/
def empty : Journal := ⟨10, []⟩

instance : Inhabited Journal := ⟨empty⟩

/-- Whether a record of the given rank is kept; ranks of zero and below never are. -/
def accepts (journal : Journal) (rank : Int) : Bool :=
  decide (0 < rank) && decide (journal.threshold ≤ rank)

/-- The journal after a record was written to it. -/
def write (journal : Journal) (record : LogRecord) : Journal :=
  if journal.accepts record.level.rank then ⟨journal.threshold, journal.records ++ [record]⟩
  else journal

/-- The threshold for a level that was set: rank zero sets none, which leaves that of warnings. -/
def thresholdOf (rank : Int) : Int := if rank = 0 then Level.warning.rank else rank

/-- The records so far, and the journal without them. -/
def drain (journal : Journal) : List LogRecord × Journal :=
  (journal.records, ⟨journal.threshold, []⟩)

end Journal

end RecallChat
