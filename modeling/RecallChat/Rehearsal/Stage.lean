import RecallChat.Archive
import RecallChat.Embedding
import RecallChat.Generation
import RecallChat.Inference.Provider
import RecallChat.Rehearsal.Graph
import RecallChat.Rehearsal.Tokenizer

/-!
# The stage

A world for rehearsals: files, the lives of scripted graphs, a vocabulary, a clock, a cancel event,
memory readings and prepared replies.  The actions below are the parts that a real host would
provide.
-/

namespace RecallChat.Rehearsal

set_option autoImplicit false

/-- The runs of one graph so far. -/
structure GraphLife where
  runs : Nat
  calls : List GraphCall

/-- The inputs of a run by name, shape and kind. -/
abbrev FeedRecord := List (String × List Nat × String)

/-- A prepared reply: a value, a fault, or the prompt itself. -/
inductive Reply where
  | value (value : Value)
  | fault (fault : Fault)
  | echo

/-- Everything that rehearsals can change. -/
structure Stage where
  files : ArchiveFiles := .empty
  lives : List GraphLife := []
  feeds : List FeedRecord := []
  cancelled : Bool := false
  clock : List Number := []
  clockReadings : Nat := 0
  vocabulary : WordVocabulary := .empty
  endId : Option Int := none
  dimension : Option Nat := none
  readings : List (Except Fault Value) := []
  readerCalls : Nat := 0
  replies : List Reply := []
  seen : List (Text.CodePoints × Value) := []
  created : List (String × Optimization) := []

namespace Stage

/-- A stage on which nothing was prepared. -/
def empty : Stage := {}

instance : Inhabited Stage := ⟨empty⟩

/-- Takes the first of several entries; the last one stays. -/
def takeOne {α : Type} : List α → Option (α × List α)
  | [] => none
  | [last] => some (last, [last])
  | first :: rest => some (first, rest)

/-! ## Graphs -/

/-- Adds the life of a new graph and returns its number. -/
def newLife : Action Stage Nat := do
  let stage ← Action.world
  Action.setWorld { stage with lives := stage.lives ++ [⟨0, []⟩] }
  return stage.lives.length

/-- The integers of a named input. -/
def inputIntegers (feed : NamedTensors) (name : String) : Except Fault (List Int) :=
  match named? feed name with
  | some tensor => .ok tensor.elements.toIntegers.toList
  | none => .error (.missingKey name)

/-- One run of a scripted graph: it is counted and remembered first, then it may fail, then it may
ask for a cancellation, and then it answers. -/
def runScripted (graph : ScriptedGraph) (life : Nat) (feed : NamedTensors)
    (requested : List String) : Action Stage NamedTensors := do
  let ids ← Action.ofExcept (inputIntegers feed "input_ids")
  let mask := (inputIntegers feed "attention_mask").toOption.getD []
  let run := (((← Action.world).lives[life]?.map GraphLife.runs).getD 0) + 1
  Action.change fun stage =>
    { stage with lives := stage.lives.modify life fun past =>
        ⟨run, ⟨ids, mask, requested⟩ :: past.calls⟩ }
  if let some (chosen, fault) := graph.failsAt then
    if chosen = run then throw fault
  if graph.cancelsAt = some run then
    Action.change fun stage => { stage with cancelled := true }
  Action.ofExcept (graph.answer run ids)

/-- A scripted graph with its life on the stage. -/
def graphOf (graph : ScriptedGraph) (life : Nat) : Graph Stage where
  run feed requested := runScripted graph life feed requested

/-- The calls of a graph, oldest first. -/
def callsOf (stage : Stage) (life : Nat) : List GraphCall :=
  ((stage.lives[life]?.map GraphLife.calls).getD []).reverse

/-! ## Clock, cancel event, readings and replies -/

/-- A clock of which nothing was prepared: it starts at some moment and goes on by a small part of a
second with every reading. -/
def runningClock (readings : Nat) : Number :=
  .real (Floating.round .double false (2 ^ 30 + readings) (-17))

/-- The next reading of the clock. -/
def readClock : Action Stage Number := do
  let stage ← Action.world
  match takeOne stage.clock with
  | none =>
    Action.setWorld { stage with clockReadings := stage.clockReadings + 1 }
    return runningClock stage.clockReadings
  | some (now, rest) =>
    Action.setWorld { stage with clock := rest }
    return now

/-- Whether the cancel event is set. -/
def isCancelled : Action Stage Bool := do return (← Action.world).cancelled

/-- The next reading of the memory. -/
def readMemory : Action Stage Value := do
  let stage ← Action.world
  match takeOne stage.readings with
  | none => return .null
  | some (reading, rest) =>
    Action.setWorld { stage with readings := rest }
    Action.ofExcept reading

/-- The next reading of the memory, counted as a call of the reader. -/
def callReader : Action Stage Value := do
  Action.change fun stage => { stage with readerCalls := stage.readerCalls + 1 }
  readMemory

/-- The next prepared reply to a prompt. -/
def reply (prompt : Text.CodePoints) (maxTokens : Value) : Action Stage Value := do
  let stage ← Action.world
  let seen := stage.seen ++ [(prompt, maxTokens)]
  match takeOne stage.replies with
  | none =>
    Action.setWorld { stage with seen := seen }
    return .text ""
  | some (reply, rest) =>
    Action.setWorld { stage with replies := rest, seen := seen }
    match reply with
    | .value value => return value
    | .echo => return .ofPoints prompt
    | .fault fault => throw fault

/-! ## Tokenizers and embedding -/

/-- The stage with its memory of the end id. -/
def adapted (stage : Stage) : Adapted Stage := ⟨stage, stage.endId⟩

/-- The stage after its memory of the end id was brought up to date. -/
def ofAdapted (world : Adapted Stage) (_ : Stage) : Stage :=
  { world.inner with endId := world.endId }

/-- The vocabulary of the stage behind an adapter. -/
def adapter (endToken : Value) : TokenizerAdapter Stage :=
  ⟨wordTokenizer Stage.vocabulary, endToken⟩

/-- An adapter as a tokenizer on the stage. -/
def tokenizerOf (adapter : TokenizerAdapter Stage) : Tokenizer Stage :=
  adapter.tokenizer.within adapted ofAdapted

/-- An action of an embedder that remembers the length of its vectors on the stage. -/
def measured {α : Type} (action : Action (Measured Stage) α) : Action Stage α :=
  action.within (fun stage => ⟨stage, stage.dimension⟩)
    fun world _ => { world.inner with dimension := world.dimension }

/-- The vector of a text. -/
def embed (embedder : Embedder Stage) (text : Value) : Action Stage Vector32 :=
  measured (embedder.embed text)

/-- The vectors of several texts. -/
def embedAll (embedder : Embedder Stage) (texts : List Value) : Action Stage (List Vector32) :=
  measured (embedder.embedAll texts)

/-! ## Files -/

/-- Whether a path leads to a file. -/
def isFile (path : Path) : Action Stage Bool := do
  Action.ofExcept ((← Action.world).files.isFile path)

/-- The bytes of a file. -/
def readBytes (path : Path) : Action Stage ByteArray := do
  match (← Action.world).files.readBytes path with
  | .ok bytes => return bytes
  | .error trouble => throw (trouble.fault path.points)

/-- Loads the vocabulary of a tokenizer file. -/
def loadVocabulary (decode : ByteArray → Option WordVocabulary) (path : Path) :
    Action Stage (LibraryTokenizer Stage) := do
  match decode (← readBytes path) with
  | none => throw (.outside .backend "not a tokenizer")
  | some vocabulary =>
    Action.change fun stage => { stage with vocabulary := vocabulary }
    return wordTokenizer Stage.vocabulary

end Stage

end RecallChat.Rehearsal
