import RecallChat.Json.Values
import RecallChat.LogFile
import RecallChat.ModelTable
import RecallChat.Rehearsal.Stage

/-!
# Rehearsal reports

The JSON in which the outcome of a rehearsal is written: sessions, memories, tensors, graph calls,
provider attempts and row counts.
-/

namespace RecallChat.Rehearsal.Report

set_option autoImplicit false

/-- A message as its role and content. -/
def message (message : Message) : Json :=
  .array [.text message.role.name, .ofValue message.content]

/-- Messages in order. -/
def messages (list : List Message) : Json := .array (list.map message)

/-- A session as its identifier, its window and its messages. -/
def session (session : Session) : Json :=
  .array [.ofValue session.id, .ofValue session.window.toValue, messages session.messages]

/-- The sessions of a registry in order. -/
def sessions (registry : Registry) : Json := .array (registry.sessions.map session)

/-- A memory as its text and vector. -/
def memoryEntry (entry : MemoryEntry) : Json :=
  .array [.ofValue entry.text, .ofVector entry.vector]

/-- Memories in order. -/
def memory (memory : Memory) : Json := .array (memory.entries.map memoryEntry)

/-- Texts with their scores. -/
def scored (found : List (Value × Double)) : Json :=
  .array (found.map fun (text, score) => .array [.ofValue text, .ofFloating score])

/-- The sessions and memories of a chat. -/
def chat (state : ChatState) : Json :=
  .object [("sessions", sessions state.registry), ("memory", memory state.memory)]

/-- The outcome of a turn. -/
def turn {ρ : Type} [Utterance ρ] (report : TurnReport ρ) : Json :=
  .object [("response", .ofValue (Utterance.content report.response)),
    ("session_id", .ofValue report.sessionId), ("retrieved", scored report.retrieved),
    ("prompt", .ofPoints report.prompt)]

/-- The number of rows of each table. -/
def counts (counts : RowCounts) : Json :=
  .object [("sessions", .ofNat counts.sessions), ("messages", .ofNat counts.messages),
    ("memories", .ofNat counts.memories)]

/-- A provider, whether it succeeded, and why not. -/
def attempt (attempt : ProviderAttempt) : Json :=
  .array [.text attempt.provider, .boolean attempt.failure.isNone,
    (attempt.failure.map Json.text).getD .null]

/-- Provider attempts in order. -/
def attempts (list : List ProviderAttempt) : Json := .array (list.map attempt)

/-- A shape. -/
def shape (sizes : List Nat) : Json := .array (sizes.map Json.ofNat)

/-- Integers in order. -/
def integers (list : List Int) : Json := .array (list.map Json.ofInt)

/-- A tensor as its shape and its elements. -/
def tensor (tensor : Tensor) : List (String × Json) :=
  [("shape", shape tensor.shape), ("data", .ofVector tensor.elements.toSingles.toList)]

/-- The calls of a graph. -/
def calls (list : List GraphCall) : Json :=
  .array (list.map fun call =>
    .array [integers call.ids, integers call.mask, .ofTexts call.requested])

/-- The inputs of runs by name, shape and kind. -/
def feeds (list : List FeedRecord) : Json :=
  .array (list.map fun feed => .array (feed.map fun (name, sizes, kind) =>
    .array [.text name, shape sizes, .text kind]))

/-- The paths of a model's artifacts. -/
def paths (paths : ModelPaths) : Json :=
  .array (paths.toList.map fun path => .ofPoints path.points)

/-- A generation with all that is known of it. -/
def generation (made : Generated) : Json :=
  .object [("text", .text made.text), ("token_ids", integers made.tokenIds),
    ("stop_reason", .text made.stopReason.name), ("steps", .ofNat made.steps),
    ("state", .text "stopped")]

/-- The form of a time: a date and a time of day, a digit for every zero. -/
def timeForm : List Char := "0000-00-00 00:00:00".toList

/-- Whether characters begin with a time. -/
def startsWithTime (cs : List Char) : Bool :=
  timeForm.length ≤ cs.length &&
    (cs.zip timeForm).all fun (c, form) => if form = '0' then c.isDigit else c == form

/-- A line whose leading time, if it has one, is hidden. -/
def withoutTime (line : String) : String :=
  if startsWithTime line.toList then
    timeMark ++ String.ofList (line.toList.drop timeForm.length)
  else line

/-- A text in which the leading time of every line is hidden. -/
def withoutTimes (text : String) : String :=
  "\n".intercalate ((text.splitOn "\n").map withoutTime)

end RecallChat.Rehearsal.Report
