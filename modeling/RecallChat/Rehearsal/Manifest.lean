import RecallChat.Json.Reader
import RecallChat.Json.Values
import RecallChat.ModelTable
import RecallChat.Rehearsal.Backend

/-!
# Rehearsal manifests

The JSON in which the parts of a rehearsal are written: tensors, scripted graphs, vocabularies,
models, providers, files, records and prepared replies.
-/

namespace RecallChat.Rehearsal

set_option autoImplicit false

/-- A kind of elements by name. -/
def ElementKind.ofName (name : String) : ElementKind :=
  let named : List (String × ElementKind) :=
    [("float16", .half), ("float32", .single), ("float64", .double), ("bool", .boolean),
      ("int8", .integer true 8), ("int16", .integer true 16), ("int32", .integer true 32),
      ("int64", .integer true 64), ("uint8", .integer false 8), ("uint16", .integer false 16),
      ("uint32", .integer false 32), ("uint64", .integer false 64)]
  (named? named name).getD .single

/-- The kind of elements that a manifest names. -/
def kindOf (json : Json) : ElementKind := .ofName (json.stringOr "dtype" "float32")

/-- A tensor. -/
def tensorOf (json : Json) : Tensor :=
  ⟨(json.get "shape").items.map Json.toNat,
    (kindOf json).elements (json.get "data").toNumbers.leaves⟩

/-- Rows of numbers. -/
def rowsOf (json : Json) : List (List Double) :=
  json.items.map fun row => row.items.map Json.toDouble

/-- A scripted graph; `output` is the name of its output when none is given. -/
def graphOf (output : String) (fault : Json → Fault) (json : Json) : ScriptedGraph :=
  let script : Script :=
    match json.stringOr "kind" "" with
    | "script" =>
      .tokens ((json.get "tokens").items.map Json.toInt)
        (((json.field? "vocab").map Json.toNat).getD 256)
    | "rows" => .rows (rowsOf (json.get "rows"))
    | "table" => .table (rowsOf (json.get "table"))
    | "fixed" => .fixed (tensorOf json)
    | _ => .nothing
  { script := script
    output := json.stringOr "output" output
    kind := kindOf json
    failsAt := (json.field? "fail").map fun fail => ((fail.get "at").toNat, fault fail)
    cancelsAt := (json.field? "cancel_at").map Json.toNat }

/-- A vocabulary's words and ids. -/
def entriesOf (json : Json) : List (String × Int) :=
  json.fields.map fun (word, id) => (word, id.toInt)

/-- An optional id. -/
def id? (json : Json) (name : String) : Option Int :=
  match json.get name with
  | .null => none
  | id => some id.toInt

/-- A vocabulary. -/
def vocabularyOf (json : Json) : WordVocabulary where
  entries := entriesOf (json.get "vocab")
  unknown := id? json "unk"
  start := id? json "bos"
  special := (json.get "special").items.map Json.toInt
  ownEnd := json.value? "own_eos"

/-- A declared size. -/
def dimensionOf : Json → Dimension
  | .number lexeme => .size (Json.number lexeme).toInt
  | .boolean value => .size (if value then 1 else 0)
  | .text name => .symbol name
  | _ => .unknown

/-- A declared input. -/
def inputOf (json : Json) : String × Option (List Dimension) :=
  match json.items with
  | [name, .null] => (name.string, none)
  | [name, shape] => (name.string, some (shape.items.map dimensionOf))
  | _ => ("", none)

/-- A model. -/
def modelOf (fault : Json → Fault) (json : Json) : ModelScript :=
  let graph := graphOf "logits" fault (json.get "graph")
  { inputs := ((json.field? "inputs").map fun inputs => inputs.items.map inputOf).getD
      standardInputs
    outputs := ((json.field? "outputs").map fun names => names.items.map Json.string).getD
      [graph.output]
    behaviour := match json.field? "graph" with
      | some _ => .graph graph
      | none => .results ((json.get "results").items.map tensorOf)
    failure := (json.field? "raise").map fault }

/-- The providers of a backend. -/
def providersOf (json : Json) : ProviderScript where
  available := ((json.field? "available").map fun names => names.items.map Json.string).getD
    [Backend.baseline]
  failures := (json.get "fail").fields.map fun (name, message) => (name, message.string)
  fallbacks := (json.get "fallback").fields.map fun (name, active) =>
    (name, active.items.map Json.string)

/-- The tokenizer of a specification, and the stage that holds its vocabulary. -/
def tokenizerOf (json : Json) (stage : Stage) : Tokenizer Stage × Stage :=
  if json.stringOr "kind" "" = "hf" then
    (Stage.tokenizerOf (Stage.adapter (json.value "eos_token")),
      { stage with vocabulary := vocabularyOf json })
  else (byteTokenizer Stage (((json.field? "eos").map Json.toInt).getD 2), stage)

/-- Turns of a session, a user text and an assistant text each. -/
def turnsOf (json : Json) : List (Value × Value × Value) :=
  json.items.filterMap fun turn =>
    match turn.items with
    | [id, user, assistant] => some (id.toValue, user.toValue, assistant.toValue)
    | _ => none

/-- The bytes of pairs of hexadecimal digits. -/
def bytesOfHex : List Char → List UInt8
  | a :: b :: rest => UInt8.ofNat ((Json.hexValue? [a, b]).getD 0) :: bytesOfHex rest
  | _ => []

/-- The entry of a file: a text, a directory, bytes, or a JSON value as text. -/
def fileEntryOf : Json → FileEntry Tables
  | .null => .directory
  | .text content => .file content.toUTF8
  | other =>
    match other.field? "hex" with
    | some hex => .file ⟨(bytesOfHex hex.string.toList).toArray⟩
    | none => .file (other.get "json").render.toUTF8

/-- A file system with the given files. -/
def filesOf (json : Json) : ArchiveFiles :=
  json.fields.foldl (fun files (name, content) => files.put (.ofText name) (fileEntryOf content))
    .empty

/-- A tier by its exact name. -/
def tierOf (json : Json) : Except Fault Tier :=
  match Tier.all.find? fun tier => tier.name == json.string with
  | some tier => .ok tier
  | none => .error (.wrongValue "not a tier")

/-- A task by its exact name. -/
def taskOf (json : Json) : Except Fault ModelTask :=
  match ModelTask.all.find? fun task => task.name == json.string with
  | some task => .ok task
  | none => .error (.wrongValue "not a task")

/-- A row of a model table: a tier, a task and a file name. -/
def rowOf (json : Json) : Except Fault (Tier × ModelTask × Text.CodePoints) :=
  match json.items with
  | [tier, task, filename] => do
    return (← tierOf tier, ← taskOf task, filename.points)
  | _ => .error (.wrongValue "not a row")

/-- A locator; the standard base and table stand in where none are given. -/
def locatorOf (json : Json) : Except Fault Locator := do
  let table ← match json.field? "table" with
    | some rows => rows.items.mapM rowOf
    | none => pure ModelTable.builtIn
  let base := ((json.field? "base_dir").map Json.points).getD (.ofString Locator.defaultBase)
  Locator.make (.ofPoints base) table

/-- A tier and a task; the task is chat where none is given. -/
def queryOf (json : Json) : Except Fault (Tier × ModelTask) :=
  match json.items with
  | [tier] => return (← tierOf tier, .chat)
  | [tier, task] => return (← tierOf tier, ← taskOf task)
  | _ => .error (.wrongValue "not a query")

/-- A session record. -/
def sessionRecordOf (json : Json) : SessionRecord :=
  ⟨json.value? "session_id", json.value? "max_history", json.value? "messages"⟩

/-- Session records. -/
def sessionRecordsOf (json : Json) : List SessionRecord := json.items.map sessionRecordOf

/-- A memory record. -/
def memoryRecordOf (json : Json) : MemoryRecord :=
  ⟨json.value? "text", (json.field? "embedding").map Json.toNumbers⟩

/-- Memory records. -/
def memoryRecordsOf (json : Json) : List MemoryRecord := json.items.map memoryRecordOf

/-- Messages given as pairs of a role and a content. -/
def messagesOf (json : Json) : Except Fault (List Message) :=
  json.items.mapM fun pair =>
    match pair.items with
    | [role, content] => Message.make role.toValue content.toValue
    | _ => .error (.wrongValue "not a pair")

/-- The settings of a generator. -/
def settingsOf (json : Json) : GenerationSettings :=
  let standard := GenerationSettings.standard
  ⟨(json.value? "max_tokens").getD standard.maxTokens,
    (json.value? "stop_on_newline").getD standard.stopOnNewline,
    (json.value? "max_seconds").getD standard.maxSeconds⟩

/-- A registry without sessions. -/
def registryOf (json : Json) : Registry :=
  let standard := Registry.standard
  .empty ((json.value? "max_history").getD standard.maxHistory)
    ((json.value? "default_session_id").getD standard.defaultId)

/-- A prepared reply: an object is a fault or the prompt, and anything else the reply itself. -/
def replyOf (fault : Json → Fault) : Json → Reply
  | .object fields =>
    match (Json.object fields).field? "raise" with
    | some raised => .fault (fault raised)
    | none => .echo
  | other => .value other.toValue

/-- An embedder with a table of vectors and a vector for all other texts. -/
def tableEmbedder (fault : Json → Fault) (json : Json) (text : Value) : Action Stage Value :=
  let entry := ((json.get "table").field? text.display).getD (json.get "default")
  match entry.field? "raise" with
  | some raised => throw (fault raised)
  | none => return (← Action.ofExcept (Vector32.ofValue entry.toNumbers)).toValue

end RecallChat.Rehearsal
