import RecallChat.Archive
import RecallChat.ChatConfig
import RecallChat.Embedding
import RecallChat.Generation
import RecallChat.Tier.Detection
import RecallChat.Tokenizer.Artifact

/-!
# Building a chat engine

An engine is a conversation whose parts are loaded from files: a tokenizer, a graph that generates
and a graph that embeds.  The builder selects a tier, resolves the paths of the artifacts, loads
them one after the other, and restores an archive last, so that nothing is restored for an engine
that cannot be loaded.  Sessions and memory can be shared with the new engine; otherwise it starts
without any.

Records are written to log files as soon as the part that logged them has done its work.
-/

namespace RecallChat

open RecallChat.Text

set_option autoImplicit false

/-- What an engine needs of its host: the total memory, a token library, a backend for graphs, a
clock and files. -/
structure Host (σ : Type) where
  memoryProbe : Action σ Value
  loadTokenizer : Path → Action σ (LibraryTokenizer σ)
  backend : Backend σ
  clock : Action σ Number
  files : σ → ArchiveFiles
  putFiles : ArchiveFiles → σ → σ

/-- A host's world with what an engine remembers in it beside its conversation. -/
structure Hosted (σ : Type) where
  inner : σ
  outlets : LogOutlets
  endId : Option Int
  dimension : Option Nat

/-- The world of an engine. -/
abbrev EngineWorld (σ : Type) := Conversing (Hosted σ)

namespace Hosted

variable {σ α : Type}

/-- A hosted world in which nothing is remembered. -/
def start (inner : σ) : Hosted σ := ⟨inner, {}, none, none⟩

/-- Another world of the host in its place. -/
def setInner (inner : σ) (hosted : Hosted σ) : Hosted σ := { hosted with inner := inner }

/-- The world of the host with the end id, as tokenizers see it. -/
def adapted (hosted : Hosted σ) : Adapted σ := ⟨hosted.inner, hosted.endId⟩

/-- What a tokenizer has left. -/
def setAdapted (adapted : Adapted σ) (hosted : Hosted σ) : Hosted σ :=
  { hosted with inner := adapted.inner, endId := adapted.endId }

/-- A graph of the host as a graph of the hosted world. -/
def graph (graph : Graph σ) : Graph (Hosted σ) where
  run feed requested := (graph.run feed requested).within inner setInner

/-- The vector of a text; its length is remembered. -/
def embed (embedder : Embedder (Hosted σ)) (text : Value) : Action (Hosted σ) Vector32 :=
  (embedder.embed text).within (fun hosted => ⟨hosted, hosted.dimension⟩)
    fun measured _ => { measured.inner with dimension := measured.dimension }

end Hosted

namespace Host

variable {σ α : Type}

/-- An action of the host. -/
def inside (action : Action σ α) : Action (EngineWorld σ) α :=
  Conversation.inside (action.within Hosted.inner Hosted.setInner)

/-- Whether a path leads to a file. -/
def isFile (host : Host σ) (path : Path) : Action σ Bool := do
  Action.ofExcept ((host.files (← Action.world)).isFile path)

/-- An action on the files of the host. -/
def onFiles (host : Host σ) (action : Action ArchiveFiles α) : Action (EngineWorld σ) α :=
  inside (action.within host.files host.putFiles)

/-- Writes records to the log files. -/
def deliver (host : Host σ) (records : List LogRecord) (world : EngineWorld σ) : EngineWorld σ :=
  let hosted := world.inner
  let files := hosted.outlets.deliver records (host.files hosted.inner)
  { world with inner := hosted.setInner (host.putFiles files hosted.inner) }

/-- An action whose records are written to the log files when it has ended. -/
def recorded (host : Host σ) (action : Action (EngineWorld σ) α) : Action (EngineWorld σ) α :=
  fun scene =>
    let (outcome, after) := action.perform ⟨scene.world, { scene.journal with records := [] }⟩
    let records := after.journal.records
    (outcome, ⟨host.deliver records after.world,
      { after.journal with records := scene.journal.records ++ records }⟩)

/-- Sets up a log file. -/
def setUpLog (host : Host σ) (path level : Value) : Action (EngineWorld σ) Unit :=
  (LogFile.setUp path level).within
    (fun world => ⟨host.files world.inner.inner, world.inner.outlets⟩)
    fun logging world =>
      { world with inner := { world.inner with
          inner := host.putFiles logging.files world.inner.inner, outlets := logging.outlets } }

end Host

/-! ## Conversations over graphs -/

/-- A tokenizer and two graphs, with the settings of the conversation that is made of them. -/
structure EngineParts (σ : Type) where
  adapter : TokenizerAdapter σ
  chat : InferenceSession σ
  embedding : InferenceSession σ
  clock : Action σ Number
  settings : GenerationSettings
  topK : Value
  maxTokens : Value

namespace EngineParts

variable {σ : Type} (parts : EngineParts σ)

/-- The tokenizer, which the generator and the embedder share. -/
def tokenizer : Tokenizer (Hosted σ) :=
  parts.adapter.tokenizer.within Hosted.adapted Hosted.setAdapted

/-- The generator over the first graph. -/
def generator : Generator (Hosted σ) :=
  ⟨Hosted.graph parts.chat.graph, parts.tokenizer,
    parts.clock.within Hosted.inner Hosted.setInner, parts.settings⟩

/-- The embedder over the second graph. -/
def embedder : Embedder (Hosted σ) := ⟨Hosted.graph parts.embedding.graph, parts.tokenizer⟩

/-- The conversation of the generator and the embedder. -/
def conversation : Conversation (Hosted σ) :=
  ⟨fun text => Vector32.toValue <$> Hosted.embed parts.embedder text, parts.generator.generate,
    parts.topK, parts.maxTokens⟩

end EngineParts

/-! ## The builder -/

/-- What an engine is built of beside the host. -/
structure EngineBuilder where
  config : ChatConfig := {}
  /-- A locator to use instead of one for the configured directory. -/
  locator : Option Locator := none
  /-- An archive to restore instead of the configured one. -/
  archive : Option Archive := none
  /-- Whether the engine goes on with the sessions that are there. -/
  sharesSessions : Bool := false
  /-- Whether the engine goes on with the memory that is there. -/
  sharesMemory : Bool := false

/-- A chat engine with the parts it was built of. -/
structure Engine (σ : Type) where
  conversation : Conversation (Hosted σ)
  tokenizer : Tokenizer (Hosted σ)
  settings : GenerationSettings
  /-- The provider of the generating graph. -/
  chatProvider : String
  /-- The provider of the embedding graph. -/
  embeddingProvider : String

namespace EngineBuilder

variable {σ : Type}

/-- The name under which builders log. -/
def logSource : String := "tierchat.builder"

/-! ### Settings -/

/-- A builder for another models directory. -/
def withModelsDir (builder : EngineBuilder) (path : Value) : EngineBuilder :=
  { builder with config := { builder.config with modelsDir := .text path.display } }

/-- A builder for a tier that is not detected; null detects it again. -/
def withTier (builder : EngineBuilder) (tier : Value) : EngineBuilder :=
  { builder with config := { builder.config with tier := tier } }

/-- A builder for another task. -/
def withTask (builder : EngineBuilder) (task : Value) : EngineBuilder :=
  { builder with config := { builder.config with task := task } }

/-! ### Paths -/

/-- The configured tier, or the tier of the host where none is configured. -/
def selectTier (builder : EngineBuilder) (probe : Action σ Value) : Action σ Tier := do
  let override ← match builder.config.tier with
    | .null => pure none
    | name => some <$> Action.ofExcept (Tier.parse name)
  let selector ← Tier.Selector.make override
  return (← selector.detect (Tier.probeReader probe)).1

/-- The locator for the configured directory. -/
def configuredLocator (config : ChatConfig) : Except Fault Locator :=
  config.modelsDir.toPath.bind fun base => Locator.make base .builtIn

/-- The paths of the artifacts. -/
def resolveModels (builder : EngineBuilder) (probe : Action σ Value) : Action σ ModelPaths := do
  let locator ← match builder.locator with
    | some locator => pure locator
    | none => Action.ofExcept (configuredLocator builder.config)
  let tier ← builder.selectTier probe
  return locator.resolve tier (← Action.ofExcept (ModelTask.parse builder.config.task))

/-! ### Parts -/

/-- The generation settings of a configuration. -/
def settings (config : ChatConfig) : GenerationSettings :=
  ⟨config.maxTokens, config.stopOnNewline, config.maxSeconds⟩

/-- The paths of the artifacts, after a warning about those that do not exist. -/
def findModels (builder : EngineBuilder) (host : Host σ) : Action (EngineWorld σ) ModelPaths := do
  let paths ← Host.inside (builder.resolveModels host.memoryProbe)
  let files := host.files (← Action.world).inner.inner
  let missing ← Action.ofExcept (files.absent paths.toList)
  if !missing.isEmpty then
    Action.log .warning logSource
      (.ofString "Missing model artifacts: " ++
        (CodePoints.ofString ", ").intercalate (missing.map Path.points))
  return paths

/-- A session for the model of a path. -/
def loadModel (builder : EngineBuilder) (host : Host σ) (path : Path) :
    Action (EngineWorld σ) (InferenceSession σ) :=
  Host.inside (host.backend.load host.isFile path builder.config.providers
    builder.config.optimizationLevel)

/-- The sessions and the memory that the engine starts with. -/
def startingChat (builder : EngineBuilder) (present : ChatState) : ChatState :=
  { registry :=
      if builder.sharesSessions then present.registry
      else .empty builder.config.maxHistory builder.config.defaultSessionId
    memory := if builder.sharesMemory then present.memory else .empty }

/-- Merges an archive into the sessions and the memory, as far as that goes. -/
def restore (host : Host σ) (archive : Archive) : Action (EngineWorld σ) Unit := do
  let (outcome, chat) ← host.onFiles (archive.restore (← Action.world).chat)
  Action.change fun world => { world with chat := chat }
  Action.ofExcept outcome

/-- The path of an archive in words. -/
def archivePath (path : Value) : Except Fault String :=
  match path with
  | .illFormed _ => .error (.outside .unencodable "a path with a surrogate")
  | other => other.inWords

/-- Restores the given archive, or else the configured one, if there is any. -/
def restoreArchive (builder : EngineBuilder) (host : Host σ) : Action (EngineWorld σ) Unit := do
  let path := builder.config.archivePath
  match builder.archive with
  | some archive => restore host archive
  | none =>
    if path.isTruthy then
      let archive ← host.onFiles (Archive.openAt (← Action.ofExcept (archivePath path)))
      restore host archive
      let _ ← host.onFiles archive.closeAlone

/-- The engine made of a tokenizer and two sessions. -/
def assemble (builder : EngineBuilder) (host : Host σ) (adapter : TokenizerAdapter σ)
    (chat embedding : InferenceSession σ) : Engine σ :=
  let parts : EngineParts σ :=
    ⟨adapter, chat, embedding, host.clock, settings builder.config, builder.config.topK,
      builder.config.maxTokens⟩
  { conversation := parts.conversation
    tokenizer := parts.tokenizer
    settings := parts.settings
    chatProvider := chat.provider
    embeddingProvider := embedding.provider }

/-- Announces a finished engine. -/
def announce (paths : ModelPaths) (engine : Engine σ) : Action (EngineWorld σ) Unit :=
  Action.log .info logSource
    (.ofString "Chat engine ready: chat=" ++ paths.chat.name ++
      .ofString (" [" ++ engine.chatProvider ++ "], embedding=") ++ paths.embedding.name ++
      .ofString (" [" ++ engine.embeddingProvider ++ "]"))

/-- Builds the engine. -/
def build (builder : EngineBuilder) (host : Host σ) : Action (EngineWorld σ) (Engine σ) := do
  let config := builder.config
  if config.logFile.isTruthy then host.setUpLog config.logFile config.logLevel
  let paths ← host.recorded (builder.findModels host)
  let adapter ← host.recorded (Host.inside
    (TokenizerAdapter.ofFile host.isFile host.loadTokenizer paths.tokenizer config.endToken))
  let chat ← host.recorded (builder.loadModel host paths.chat)
  let embedding ← host.recorded (builder.loadModel host paths.embedding)
  Action.change fun world => { world with chat := builder.startingChat world.chat }
  host.recorded (builder.restoreArchive host)
  let engine := builder.assemble host adapter chat embedding
  host.recorded (announce paths engine)
  return engine

end EngineBuilder

/-! ## Layered configuration -/

namespace ChatConfig

/-- A path that an argument names; null names none. -/
def pathArgument (argument : Value) : Except Fault (Option Path) :=
  match argument with
  | .null => .ok none
  | given => given.toPath.map some

/-- A directory that an argument names, as a text; null names none. -/
def directoryArgument (argument : Value) : Except Fault (Option Value) :=
  match argument with
  | .null => .ok none
  | .illFormed points => .ok (some (.illFormed points))
  | other => other.inWords.map fun words => some (.text words)

/-- The value of an argument, null where it is not given. -/
def argument (arguments : List (String × Value)) (name : String) : Value :=
  (named? arguments name).getD .null

/-- The names of the arguments that are no settings to be taken over as they are. -/
def namedArguments : List String := ["models_dir", "config_path"]

/-- A configuration from arguments by name, none of which may be given twice.  The file that
`config_path` names, or the defaults, come first; the other arguments are settings on top of that,
a directory of models last.  A file with a value that holds itself cannot be a layer. -/
def ofArguments (files : ArchiveFiles) (arguments : List (String × Value)) :
    Except Fault ChatConfig := do
  let names := arguments.map Prod.fst
  if names.eraseDups.length ≠ names.length then
    throw (.wrongType "two arguments of one name")
  let base ← match ← pathArgument (argument arguments "config_path") with
    | some path => ofFile files path
    | none => pure {}
  let directory ← directoryArgument (argument arguments "models_dir")
  if base.settings.any fun setting => setting.2.isRecursive then
    throw (.outside .endlessNesting "a value that holds itself")
  let settings := arguments.filter fun argument => !namedArguments.contains argument.1
  base.override (settings.map fun (name, value) => (.text name, value)) directory

end ChatConfig

/-- Builds an engine from a configuration in layers. -/
def EngineBuilder.create {σ : Type} (host : Host σ) (arguments : List (String × Value)) :
    Action (EngineWorld σ) (EngineBuilder × Engine σ) := do
  let files := host.files (← Action.world).inner.inner
  let builder : EngineBuilder :=
    { config := ← Action.ofExcept (ChatConfig.ofArguments files arguments) }
  return (builder, ← builder.build host)

end RecallChat
