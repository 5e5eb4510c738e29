import RecallChat.FileSystem
import RecallChat.Inference.Provider
import RecallChat.LogFile
import RecallChat.ModelTable
import RecallChat.Registry
import RecallChat.Wording
import RecallChat.Yaml.Document

/-!
# Configuration of a chat engine

One record for everything that can be set.  A configuration is made of named settings, from a
mapping or from a YAML file; a setting that is not given keeps its default.  Unknown names are
refused, and so is a list of providers that is not a list of names; all other values are taken as
they are and are judged where they are used.
-/

namespace RecallChat

set_option autoImplicit false

/-- Everything that can be set about a chat engine. -/
structure ChatConfig where
  modelsDir : Value := .text Locator.defaultBase
  tier : Value := .null
  task : Value := .text ModelTask.chat.name
  providers : List String := Backend.defaultProviders
  optimizationLevel : Value := .text "all"
  endToken : Value := .null
  maxHistory : Value := Registry.standard.maxHistory
  defaultSessionId : Value := Registry.standard.defaultId
  topK : Value := .integer 2
  maxTokens : Value := .integer 512
  stopOnNewline : Value := .boolean true
  maxSeconds : Value := .null
  archivePath : Value := .null
  logFile : Value := .null
  logLevel : Value := .text "INFO"

namespace ChatConfig

/-! ## Settings by name -/

/-- The providers as a value. -/
def providersValue (config : ChatConfig) : Value := .list (config.providers.map Value.text)

/-- All settings with their names. -/
def settings (config : ChatConfig) : List (String × Value) :=
  [("models_dir", config.modelsDir), ("tier", config.tier), ("task", config.task),
    ("providers", config.providersValue), ("optimization_level", config.optimizationLevel),
    ("eos_token", config.endToken), ("max_history", config.maxHistory),
    ("default_session_id", config.defaultSessionId), ("top_k", config.topK),
    ("max_tokens", config.maxTokens), ("stop_on_newline", config.stopOnNewline),
    ("max_seconds", config.maxSeconds), ("archive_path", config.archivePath),
    ("log_file", config.logFile), ("log_level", config.logLevel)]

/-- The names of the settings. -/
def names : List String := (settings {}).map Prod.fst

/-- The settings of a configuration as the entries of a map. -/
def toEntries (config : ChatConfig) : List (Value × Value) :=
  config.settings.map fun (name, value) => (.text name, value)

/-! ## From mappings -/

/-- Whether a key is the name of a setting. -/
def isKnown (key : Value) : Bool :=
  match key with
  | .text name => names.contains name
  | _ => false

/-- Only names of settings may be keys; unknown names are reported in order. -/
def checkKeys (entries : List (Value × Value)) : Except Fault Unit :=
  let unknown := (entries.map Prod.fst).filter fun key => !isKnown key
  match unknown.mapM Value.string? with
  | none => .error (.wrongType "a key that is no text")
  | some [] => .ok ()
  | some names =>
    .error (.config (.unknownKeys (names.mergeSort fun a b => decide (a ≤ b))))

/-- The names of providers in a value. -/
def providerNames (value : Value) : Except Fault (List String) :=
  let names? := match value with
    | .list items => items.mapM Value.string?
    | .tuple items => items.mapM Value.string?
    | _ => none
  match names? with
  | some names => .ok names
  | none => value.inQuotes.bind fun shown => .error (.config (.providersNotNames shown))

/-- The configuration of the entries of a map. -/
def ofEntries (entries : List (Value × Value)) : Except Fault ChatConfig := do
  checkKeys entries
  let standard : ChatConfig := {}
  let setting (name : String) (fallback : Value) : Value :=
    (Value.find? (.text name) entries).getD fallback
  return {
    modelsDir := setting "models_dir" standard.modelsDir
    tier := setting "tier" standard.tier
    task := setting "task" standard.task
    providers := ← providerNames (setting "providers" standard.providersValue)
    optimizationLevel := setting "optimization_level" standard.optimizationLevel
    endToken := setting "eos_token" standard.endToken
    maxHistory := setting "max_history" standard.maxHistory
    defaultSessionId := setting "default_session_id" standard.defaultSessionId
    topK := setting "top_k" standard.topK
    maxTokens := setting "max_tokens" standard.maxTokens
    stopOnNewline := setting "stop_on_newline" standard.stopOnNewline
    maxSeconds := setting "max_seconds" standard.maxSeconds
    archivePath := setting "archive_path" standard.archivePath
    logFile := setting "log_file" standard.logFile
    logLevel := setting "log_level" standard.logLevel }

/-! ## From files -/

/-- A fault while a file is read: the system's refusals are refusals of the configuration. -/
def unreadable (path : Path) : Fault → Fault
  | .outside kind text =>
    if kind.isSystem then .config (.unreadable path.text text) else .outside kind text
  | fault => fault

/-- The configuration that a document describes; an empty one describes the defaults. -/
def ofDocument (path : Path) : Value → Except Fault ChatConfig
  | .null => .ok {}
  | .map entries => ofEntries entries
  | other => .error (.config (.notMapping path.text other.kindName))

/-- The document in a text. -/
def readDocument (path : Path) (text : String) : Except Fault Value :=
  match Yaml.read text with
  | .ok value => .ok value
  | .error .malformed => .error (.config (.malformed path.text))
  | .error (.fault fault) => .error fault

/-- The configuration in a file. -/
def ofFile {δ : Type} (files : FileSystem δ) (path : Path) : Except Fault ChatConfig := do
  match files.readText path with
  | .error fault => throw (unreadable path fault)
  | .ok text => ofDocument path (← readDocument path text)

/-! ## Layers -/

/-- A configuration with some settings given anew; a models directory given by itself comes last. -/
def override (config : ChatConfig) (settings : List (Value × Value)) (modelsDir : Option Value) :
    Except Fault ChatConfig :=
  let given := match modelsDir with
    | some path => Value.insert (.text "models_dir") path settings
    | none => settings
  ofEntries (given.foldl (fun entries entry => Value.insert entry.1 entry.2 entries)
    config.toEntries)

end ChatConfig

end RecallChat
