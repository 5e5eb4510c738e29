import RecallChat.Proofs.Engine.Building
import RecallChat.Proofs.Tier.Detection
import RecallChat.Proofs.Walking

/-!
# How a build fails

A build of an engine without a log file and without an archive ends with an engine, with a fault of
one of the families that it announces (`Fault.Announced`), or with a stray fault
(`EngineBuilder.Stray`).  The stray faults have six sources: a name that the file system finds too
long, a memory probe or a list of providers that fails in an unexpected way, a wrapped tokenizer that
cannot tell its size, a session that was built and cannot tell its providers or its declarations, and
an optimization level that is no name of one.

The names are judged in different steps.  An unknown tier or task ends the build before anything is
loaded, as a refusal of the configuration; an unknown level is noticed only after the tokenizer is
loaded and the file of the first model is found, and not as a refusal (`EngineBuilder.build_fails`).
-/

set_option autoImplicit false

namespace RecallChat

/-! ## Kinds of faults -/

/-- A fault of the families that a build announces. -/
inductive Fault.Announced : Fault → Prop
  | config (cause : ConfigCause) : Announced (.config cause)
  | load (path : String) (cause : LoadCause) (attempts : List ProviderAttempt) :
      Announced (.load path cause attempts)
  | tokenization (cause : TokenCause) : Announced (.tokenization cause)

/-! ## Names in a configuration -/

/-- A text can be written. -/
theorem Value.inWords_of_isString {value : Value} (string : value.IsString) :
    value.inWords = .ok value.display := by
  cases value with
  | text text => simp [inWords, isWritable]
  | illFormed points => simp [inWords, isWritable]
  | _ => exact string.elim

theorem Tier.parse_of_isString {name : Value} (string : name.IsString) :
    Tier.parse name =
      match Tier.ofName? name.display with
      | some tier => .ok tier
      | none => .error (.config (.unknownTier name.display (Tier.all.map Tier.name))) := by
  unfold Tier.parse
  rw [Value.inWords_of_isString string]
  simp only [bind, Except.bind]
  cases Tier.ofName? name.display <;> rfl

theorem ModelTask.parse_of_isString {name : Value} (string : name.IsString) :
    ModelTask.parse name =
      match ModelTask.ofName? name.display with
      | some task => .ok task
      | none => .error (.config (.unknownTask name.display (ModelTask.all.map ModelTask.name))) := by
  unfold ModelTask.parse
  rw [Value.inWords_of_isString string]
  simp only [bind, Except.bind]
  cases ModelTask.ofName? name.display <;> rfl

/-- The names of optimization levels. -/
def Optimization.names : List String := ["disable", "basic", "extended", "all"]

theorem Optimization.parse_of_mem {level : Value} (known : level ∈ names.map Value.text) :
    ∃ optimization, parse level = .ok optimization := by
  simp only [names, List.map_cons, List.map_nil, List.mem_cons, List.not_mem_nil, or_false] at known
  rcases known with rfl | rfl | rfl | rfl <;> exact ⟨_, rfl⟩

theorem Optimization.parse_of_not_mem {level : Value} (string : level.IsString)
    (unknown : level ∉ names.map Value.text) :
    parse level = .error (.misuse (.unknownOptimization level.display)) := by
  unfold parse
  split
  · exact absurd (by simp [names]) unknown
  · exact absurd (by simp [names]) unknown
  · exact absurd (by simp [names]) unknown
  · exact absurd (by simp [names]) unknown
  · rw [if_pos (Value.isHashable_of_isString string), Value.inWords_of_isString string]
    rfl

/-! ## Detection -/

/-- A reader of floating point values lets only its own faults through detection. -/
theorem Tier.detect_ends {σ : Type} {reader : Action σ Value} {faults : Fault → Prop}
    (reads : reader.Ends (fun value => ∃ x, value = .real x) faults) :
    (Tier.detect reader).Ends (fun _ => True) fun fault =>
      faults fault ∧ Tier.isTolerated fault = false := by
  intro scene
  obtain ⟨journal, detected⟩ := Tier.perform_detect reader scene
  rw [detected]
  rcases performed : reader.perform scene with ⟨fault | value, after⟩
  · cases tolerated : Tier.isTolerated fault with
    | true => simp [Tier.ofReading, tolerated, Outcome.Ends]
    | false =>
        simpa [Tier.ofReading, tolerated, Outcome.Ends] using reads.of_error performed
  · obtain ⟨x, rfl⟩ := reads.of_ok performed
    simp only [Tier.ofReading, Value.number?, Number.toReal?]
    split <;> exact trivial

namespace Host

variable {σ α : Type} {kind : α → Prop} {faults : Fault → Prop} (host : Host σ)

theorem inside_ends {action : Action σ α} (ends : action.Ends kind faults) :
    (Host.inside action).Ends kind faults :=
  (ends.within _ _).within _ _

theorem recorded_ends {action : Action (EngineWorld σ) α} (ends : action.Ends kind faults) :
    (host.recorded action).Ends kind faults :=
  fun scene => ends ⟨scene.world, { scene.journal with records := [] }⟩

theorem isFile_ends (path : Path) : (host.isFile path).Ends (fun _ => True) Fault.LongName :=
  .bind .world fun world _ => .ofExcept ((host.files world).isFile_ends path)

end Host

namespace EngineBuilder

variable {σ : Type} (builder : EngineBuilder) (host : Host σ)

/-! ## The faults of a build -/

/-- That the settings of a builder are of their kinds, and that it has no log file and no archive. -/
structure Plain : Prop where
  directory : builder.config.modelsDir.IsString
  tier : builder.config.tier = .null ∨ builder.config.tier.IsString
  task : builder.config.task.IsString
  level : builder.config.optimizationLevel.IsString
  noLog : ¬ builder.config.logFile.isTruthy = true
  noArchive : builder.archive = none
  noArchivePath : ¬ builder.config.archivePath.isTruthy = true

/-- A tier is given that is none. -/
structure UnknownTier : Prop where
  string : builder.config.tier.IsString
  unknown : Tier.ofName? builder.config.tier.display = none

/-- A fault of reading the memory that detection lets through. -/
structure Unprobed (fault : Fault) : Prop where
  unset : builder.config.tier = .null
  fails : ∃ scene after, (Tier.probeReader host.memoryProbe).perform scene = (.error fault, after)
  untolerated : Tier.isTolerated fault = false

/-- The faults of a build that are of no announced family. -/
inductive Stray : Fault → Prop
  | name {fault : Fault} (long : fault.LongName) : Stray fault
  | memory {fault : Fault} (unprobed : builder.Unprobed host fault) : Stray fault
  | size {fault : Fault} {path : Path} {wrapped : LibraryTokenizer σ}
      (loads : ∃ scene after, (host.loadTokenizer path).perform scene = (.ok wrapped, after))
      (fails : ∃ scene after, wrapped.size.perform scene = (.error fault, after)) : Stray fault
  | providers {fault : Fault}
      (fails : ∃ scene after, host.backend.available.perform scene = (.error fault, after)) :
      Stray fault
  | session {fault : Fault} {path : Path} {level : Optimization} {provider : String}
      {session : BuiltSession σ}
      (builds : ∃ scene after,
        (host.backend.create path level provider).perform scene = (.ok session, after))
      (fails : ∃ scene after, session.providers.perform scene = (.error fault, after) ∨
        session.declared.perform scene = (.error fault, after)) : Stray fault
  | level (unknown : builder.config.optimizationLevel ∉ Optimization.names.map Value.text) :
      Stray (.misuse (.unknownOptimization builder.config.optimizationLevel.display))

/-- The faults of a build. -/
def Fails (fault : Fault) : Prop := fault.Announced ∨ builder.Stray host fault

/-! ## Finding the models -/

theorem probeReader_ends (probe : Action σ Value) :
    (Tier.probeReader probe).Ends (fun value => ∃ x, value = .real x)
      fun fault => ∃ scene after, (Tier.probeReader probe).perform scene = (.error fault, after) := by
  intro scene
  rcases performed : (Tier.probeReader probe).perform scene with ⟨fault | value, after⟩
  · exact ⟨scene, after, performed⟩
  · obtain ⟨x, middle, -, reads⟩ := Action.perform_bind_eq_ok.mp performed
    cases reads
    exact ⟨x, rfl⟩

variable {builder}

theorem selectTier_of_isString (string : builder.config.tier.IsString) (probe : Action σ Value) :
    builder.selectTier probe = (do
      let tier ← Action.ofExcept (Tier.parse builder.config.tier)
      let selector ← Tier.Selector.make (some tier)
      return (← selector.detect (Tier.probeReader probe)).1) := by
  unfold selectTier
  split
  next null => rw [null] at string; exact string.elim
  next => rw [bind_map_left]

/-- An unknown tier is refused. -/
theorem selectTier_of_unknown (unknown : builder.UnknownTier) :
    (builder.selectTier host.memoryProbe).Ends (fun _ => False) fun fault =>
      fault = .config (.unknownTier builder.config.tier.display (Tier.all.map Tier.name)) := by
  rw [selectTier_of_isString unknown.string, Tier.parse_of_isString unknown.string, unknown.unknown]
  exact fun _ => rfl

/-- Another tier is selected, but one that is not given may fail to be detected. -/
theorem selectTier_ends (plain : builder.Plain) (known : ¬ builder.UnknownTier) :
    (builder.selectTier host.memoryProbe).Ends (fun _ => True) (builder.Unprobed host) := by
  rcases plain.tier with unset | string
  · unfold selectTier
    rw [unset]
    -- a probe gives floating point sizes, so only its own faults get through detection
    have detected : (Tier.detect (Tier.probeReader host.memoryProbe)).Ends (fun _ => True)
        (builder.Unprobed host) :=
      (Tier.detect_ends (probeReader_ends host.memoryProbe)).mono (fun _ => id)
        fun fault fails => ⟨unset, fails.1, fails.2⟩
    have selected : ((⟨none⟩ : Tier.Selector).detect (Tier.probeReader host.memoryProbe)).Ends
        (fun _ => True) (builder.Unprobed host) := detected.bind fun _ _ => .pure trivial
    exact selected.bind fun _ _ => .pure trivial
  · rw [selectTier_of_isString string, Tier.parse_of_isString string]
    cases named : Tier.ofName? builder.config.tier.display with
    | none => exact absurd ⟨string, named⟩ known
    | some tier => exact fun _ => trivial

theorem configuredLocator_of_isString (string : builder.config.modelsDir.IsString) :
    ∃ locator, configuredLocator builder.config = .ok locator := by
  have complete : ModelTable.missing .builtIn = [] := by decide +kernel
  obtain ⟨base, asked⟩ : ∃ base, builder.config.modelsDir.toPath = .ok base := by
    cases directory : builder.config.modelsDir with
    | text path => exact ⟨_, rfl⟩
    | illFormed points => exact ⟨_, rfl⟩
    | _ =>
        rw [directory] at string
        exact string.elim
  have made : Locator.make base .builtIn = .ok ⟨base, .builtIn, complete⟩ := dif_pos complete
  rw [configuredLocator, asked]
  exact ⟨_, made⟩

/-- Resolving the paths of a plain builder selects the tier and reads the task. -/
theorem resolveModels_of_plain (plain : builder.Plain) (probe : Action σ Value) :
    ∃ locator : Locator, builder.resolveModels probe = (do
      let tier ← builder.selectTier probe
      return locator.resolve tier (← Action.ofExcept (ModelTask.parse builder.config.task))) := by
  unfold resolveModels
  cases builder.locator with
  | some locator => exact ⟨locator, rfl⟩
  | none =>
      obtain ⟨locator, configured⟩ := configuredLocator_of_isString plain.directory
      exact ⟨locator, by rw [configured]; rfl⟩

theorem resolveModels_of_unknownTier (plain : builder.Plain) (unknown : builder.UnknownTier) :
    (builder.resolveModels host.memoryProbe).Ends (fun _ => False) fun fault =>
      fault = .config (.unknownTier builder.config.tier.display (Tier.all.map Tier.name)) := by
  obtain ⟨locator, resolves⟩ := resolveModels_of_plain plain host.memoryProbe
  rw [resolves]
  exact (selectTier_of_unknown host unknown).bind fun _ => False.elim

theorem resolveModels_of_unknownTask (plain : builder.Plain) (known : ¬ builder.UnknownTier)
    (unknown : ModelTask.ofName? builder.config.task.display = none) :
    (builder.resolveModels host.memoryProbe).Ends (fun _ => False) fun fault =>
      fault = .config
        (.unknownTask builder.config.task.display (ModelTask.all.map ModelTask.name)) ∨
      builder.Unprobed host fault := by
  obtain ⟨locator, resolves⟩ := resolveModels_of_plain plain host.memoryProbe
  rw [resolves, ModelTask.parse_of_isString plain.task, unknown]
  exact ((selectTier_ends host plain known).mono (fun _ => id) fun _ => .inr).bind
    fun _ _ _ => .inl rfl

theorem resolveModels_ends (plain : builder.Plain) :
    (builder.resolveModels host.memoryProbe).Ends (fun _ => True) (builder.Fails host) := by
  by_cases unknownTier : builder.UnknownTier
  · refine (resolveModels_of_unknownTier host plain unknownTier).mono (fun _ => False.elim) ?_
    rintro _ rfl
    exact .inl (.config _)
  · obtain ⟨locator, resolves⟩ := resolveModels_of_plain plain host.memoryProbe
    rw [resolves, ModelTask.parse_of_isString plain.task]
    refine ((selectTier_ends host plain unknownTier).mono (fun _ => id)
      fun _ unprobed => .inr (.memory unprobed)).bind fun tier _ => ?_
    cases ModelTask.ofName? builder.config.task.display with
    | none => exact fun _ => .inl (.config _)
    | some task => exact fun _ => trivial

theorem findModels_ends
    (resolves : (builder.resolveModels host.memoryProbe).Ends (fun _ => True) (builder.Fails host)) :
    (builder.findModels host).Ends (fun _ => True) (builder.Fails host) := by
  refine (Host.inside_ends resolves).bind fun paths _ => .bind .world fun world _ => ?_
  have absent := (host.files world.inner.inner).absent_ends paths.toList
  have asked : (Action.ofExcept ((host.files world.inner.inner).absent paths.toList) :
      Action (EngineWorld σ) (List Path)).Ends (fun _ => True) (builder.Fails host) :=
    (Action.Ends.ofExcept absent).mono (fun _ => id) fun _ long => .inr (.name long)
  refine asked.bind fun missing _ => ?_
  dsimp only
  split
  · exact (Action.Ends.log _ _ _).bind fun _ _ => .pure trivial
  · exact .pure trivial

/-! ## Loading -/

variable (builder)

theorem isFile_ends (path : Path) :
    (host.isFile path).Ends (fun _ => True) (builder.Fails host) :=
  (host.isFile_ends path).mono (fun _ => id) fun _ long => .inr (.name long)

theorem ofFile_ends (path : Path) (endToken : Value) :
    (TokenizerAdapter.ofFile host.isFile host.loadTokenizer path endToken).Ends (fun _ => True)
      (builder.Fails host) := by
  refine (builder.isFile_ends host path).bind fun present _ => ?_
  dsimp only
  split
  · exact fun _ => .inl (.load _ _ _)
  · refine (Action.Ends.performed (host.loadTokenizer path)).attempt.bind fun outcome loads => ?_
    cases outcome with
    | error fault => exact .throw (.inl (.tokenization _))
    | ok wrapped =>
        have sized : wrapped.size.Ends (fun _ => True) (builder.Fails host) :=
          (Action.Ends.performed _).mono (fun _ _ => trivial)
            fun _ fails => .inr (.size loads fails)
        exact sized.bind fun size _ => (Action.Ends.log _ _ _).bind fun _ _ => .pure trivial

/-- A provider is tried with a session that was built with it, or there is none. -/
theorem tryProvider_ends (path : Path) (level : Optimization) (provider : String) :
    (host.backend.tryProvider path level provider).Ends
      (fun outcome => ∀ session, outcome = .ok session → ∃ scene after,
        (host.backend.create path level provider).perform scene = (.ok session, after))
      (builder.Fails host) := by
  have listed : host.backend.available.Ends (fun _ => True) (builder.Fails host) :=
    (Action.Ends.performed _).mono (fun _ _ => trivial) fun _ fails => .inr (.providers fails)
  refine listed.bind fun available _ => ?_
  split
  · exact .pure nofun
  · refine (Action.Ends.performed _).attempt.bind fun outcome built => ?_
    cases outcome with
    | error fault => exact .pure nofun
    | ok session =>
        have told : session.providers.Ends (fun _ => True) (builder.Fails host) :=
          (Action.Ends.performed _).mono (fun _ _ => trivial) fun _ fails =>
            .inr (.session built (fails.imp fun _ => Exists.imp fun _ => .inl))
        refine told.bind fun active _ => ?_
        split
        · exact .pure fun _ same => Except.ok.inj same ▸ built
        · exact .pure nofun

/-- Negotiating ends with a session, or with a load fault when no provider is left. -/
theorem negotiate_ends (path : Path) (level : Optimization) (order : List String)
    (failed : List ProviderAttempt) :
    (host.backend.negotiate path level order failed).Ends (fun _ => True) (builder.Fails host) := by
  induction order generalizing failed with
  | nil => exact .throw (.inl (.load _ _ _))
  | cons provider rest ih =>
      unfold Backend.negotiate
      refine (builder.tryProvider_ends host path level provider).bind fun outcome built => ?_
      cases outcome with
      | error reason => exact (Action.Ends.log _ _ _).bind fun _ _ => ih _
      | ok session =>
          have declared : session.declared.Ends (fun _ => True) (builder.Fails host) :=
            (Action.Ends.performed _).mono (fun _ _ => trivial) fun _ fails =>
              .inr (.session (built session rfl) (fails.imp fun _ => Exists.imp fun _ => .inr))
          exact (Action.Ends.log _ _ _).bind fun _ _ =>
            (Action.Ends.log _ _ _).bind fun _ _ => declared.bind fun _ _ => .pure trivial

/-- A model is loaded only with the name of an optimization level. -/
theorem loadModel_ends (string : builder.config.optimizationLevel.IsString) (path : Path) :
    (builder.loadModel host path).Ends
      (fun _ => builder.config.optimizationLevel ∈ Optimization.names.map Value.text)
      (builder.Fails host) := by
  refine Host.inside_ends ((builder.isFile_ends host path).bind fun present _ => ?_)
  dsimp only
  split
  · exact fun _ => .inl (.load _ _ _)
  · by_cases known : builder.config.optimizationLevel ∈ Optimization.names.map Value.text
    · obtain ⟨level, parsed⟩ := Optimization.parse_of_mem known
      rw [parsed]
      exact (builder.negotiate_ends host path level _ _).mono (fun _ _ => known) fun _ => id
    · rw [Optimization.parse_of_not_mem string known]
      exact fun _ => .inr (.level known)

/-- With another level, a model file that is there is not loaded for that reason. -/
theorem loadModel_of_unknown (string : builder.config.optimizationLevel.IsString)
    (unknown : builder.config.optimizationLevel ∉ Optimization.names.map Value.text) {path : Path}
    (scene : Scene (EngineWorld σ))
    (present : (host.files scene.world.inner.inner).isFile path = .ok true) :
    ∃ after, (builder.loadModel host path).perform scene =
      (.error (.misuse (.unknownOptimization builder.config.optimizationLevel.display)), after) := by
  have asked (scene' : Scene σ) (same : scene'.world = scene.world.inner.inner) :
      (host.isFile path).perform scene' = (.ok true, scene') := by
    unfold Host.isFile
    rw [Action.perform_bind_of_ok (Action.perform_world scene'), Action.perform_ofExcept, same,
      present]
  have refused : (host.backend.load host.isFile path builder.config.providers
      builder.config.optimizationLevel).perform ⟨scene.world.inner.inner, scene.journal⟩ =
        (.error (.misuse (.unknownOptimization builder.config.optimizationLevel.display)),
          ⟨scene.world.inner.inner, scene.journal⟩) := by
    unfold Backend.load
    rw [Action.perform_bind_of_ok (asked _ rfl), Optimization.parse_of_not_mem string unknown]
    rfl
  have ended : ((builder.loadModel host path).perform scene).1 =
      ((host.backend.load host.isFile path builder.config.providers
        builder.config.optimizationLevel).perform ⟨scene.world.inner.inner, scene.journal⟩).1 := rfl
  exact ⟨_, Prod.ext (ended.trans (congrArg Prod.fst refused)) rfl⟩

variable {builder host}

/-- Loading the parts of a plain builder. -/
theorem loadParts_of_plain (plain : builder.Plain) :
    builder.loadParts host = (do
      let paths ← host.recorded (builder.findModels host)
      let adapter ← host.recorded (Host.inside
        (TokenizerAdapter.ofFile host.isFile host.loadTokenizer paths.tokenizer
          builder.config.endToken))
      let chat ← host.recorded (builder.loadModel host paths.chat)
      let embedding ← host.recorded (builder.loadModel host paths.embedding)
      return (⟨paths, adapter, chat, embedding⟩ : Loaded σ)) := by
  unfold loadParts
  dsimp only
  rw [if_neg plain.noLog]

theorem loadParts_ends (plain : builder.Plain)
    (finds : (builder.findModels host).Ends (fun _ => True) (builder.Fails host)) :
    (builder.loadParts host).Ends
      (fun _ => builder.config.optimizationLevel ∈ Optimization.names.map Value.text)
      (builder.Fails host) := by
  rw [loadParts_of_plain plain]
  refine (host.recorded_ends finds).bind fun paths _ => ?_
  refine (host.recorded_ends (Host.inside_ends (builder.ofFile_ends host _ _))).bind
    fun adapter _ => ?_
  refine (host.recorded_ends (builder.loadModel_ends host plain.level _)).bind fun chat known => ?_
  exact (host.recorded_ends (builder.loadModel_ends host plain.level _)).bind
    fun embedding _ => .pure known

/-- Without an archive nothing fails after loading. -/
theorem finish_ends (plain : builder.Plain) (loaded : Loaded σ) {faults : Fault → Prop} :
    (builder.finish host loaded).Ends (fun _ => True) faults := by
  have restores : (builder.restoreArchive host).Ends (fun _ => True) faults := by
    unfold restoreArchive
    dsimp only
    rw [plain.noArchive]
    dsimp only
    rw [if_neg plain.noArchivePath]
    exact .pure trivial
  exact (Action.Ends.change _).bind fun _ _ => (host.recorded_ends restores).bind fun _ _ =>
    (host.recorded_ends (.log _ _ _)).bind fun _ _ => .pure trivial

/-! ## Building -/

/-- What is refused before any path is known ends a build of a plain builder. -/
theorem build_of_refused (plain : builder.Plain) {faults : Fault → Prop}
    (refused : (builder.resolveModels host.memoryProbe).Ends (fun _ => False) faults) :
    (builder.build host).Ends (fun _ => False) faults := by
  have found : (builder.findModels host).Ends (fun _ => False) faults :=
    (Host.inside_ends refused).bind fun _ => False.elim
  rw [build_eq, loadParts_of_plain plain]
  exact ((host.recorded_ends found).bind fun _ => False.elim).bind fun _ => False.elim

/-- That a scene has the artifacts of a build up to the file of the first model: the paths are
found, the tokenizer is loaded, and the file is there then. -/
def Equipped (builder : EngineBuilder) (host : Host σ) (scene : Scene (EngineWorld σ)) : Prop :=
  ∃ paths found adapter loaded,
    (host.recorded (builder.findModels host)).perform scene = (.ok paths, found) ∧
    (host.recorded (Host.inside (TokenizerAdapter.ofFile host.isFile host.loadTokenizer
      paths.tokenizer builder.config.endToken))).perform found = (.ok adapter, loaded) ∧
    (host.files loaded.world.inner.inner).isFile paths.chat = .ok true

/-- An unknown level ends the build of a plain builder where all artifacts that are looked at before
it are there. -/
theorem build_of_unknownLevel (plain : builder.Plain)
    (unknown : builder.config.optimizationLevel ∉ Optimization.names.map Value.text)
    {scene : Scene (EngineWorld σ)} (equipped : builder.Equipped host scene) :
    ∃ after, (builder.build host).perform scene =
      (.error (.misuse (.unknownOptimization builder.config.optimizationLevel.display)), after) := by
  obtain ⟨paths, found, adapter, loaded, finds, loads, present⟩ := equipped
  obtain ⟨refused, ended⟩ := builder.loadModel_of_unknown host plain.level unknown
    ⟨loaded.world, { loaded.journal with records := [] }⟩ present
  obtain ⟨after, ends, -⟩ := host.perform_recorded loaded ended
  rw [build_eq, loadParts_of_plain plain, Action.perform_bind, Action.perform_bind_of_ok finds,
    Action.perform_bind_of_ok loads, Action.perform_bind_of_error ends]
  exact ⟨after, rfl⟩

/-- **A plain build ends with an engine, an announced fault or a stray one.**  It ends with an engine
only if it is given the name of an optimization level.  An unknown tier is refused, and so is an
unknown task once the tier is selected; an unknown level is not a refusal, though all artifacts that
are looked at before it are there. -/
theorem build_fails (builder : EngineBuilder) (host : Host σ) (plain : builder.Plain) :
    (builder.build host).Ends
      (fun _ => builder.config.optimizationLevel ∈ Optimization.names.map Value.text)
      (builder.Fails host) ∧
    (builder.UnknownTier → (builder.build host).Ends (fun _ => False) fun fault =>
      fault = .config (.unknownTier builder.config.tier.display (Tier.all.map Tier.name))) ∧
    (¬ builder.UnknownTier → ModelTask.ofName? builder.config.task.display = none →
      (builder.build host).Ends (fun _ => False) fun fault =>
        fault = .config
          (.unknownTask builder.config.task.display (ModelTask.all.map ModelTask.name)) ∨
        builder.Unprobed host fault) ∧
    (builder.config.optimizationLevel ∉ Optimization.names.map Value.text →
      ∀ scene, builder.Equipped host scene → ∃ after, (builder.build host).perform scene =
        (.error (.misuse (.unknownOptimization builder.config.optimizationLevel.display)),
          after)) := by
  refine ⟨?_, fun unknown => ?_, fun known unknown => ?_, fun unknown scene equipped => ?_⟩
  · rw [build_eq]
    exact (loadParts_ends plain (findModels_ends host (resolveModels_ends host plain))).bind
      fun loaded known => (finish_ends plain loaded).mono (fun _ _ => known) fun _ => id
  · exact build_of_refused plain (resolveModels_of_unknownTier host plain unknown)
  · exact build_of_refused plain (resolveModels_of_unknownTask host plain known unknown)
  · exact build_of_unknownLevel plain unknown equipped

/-- A builder for a task that is none. -/
def versed : EngineBuilder where
  config := { tier := .text "micro", task := .text "verse" }

/-- An unknown task is refused, whatever files there are. -/
theorem versed_refused : ∃ after, (versed.build lenientHost).perform sharedScene =
    (.error (.config (.unknownTask "verse" ["chat", "predict", "categorise"])), after) := by
  have plain : versed.Plain := ⟨trivial, .inr trivial, trivial, trivial, nofun, rfl, nofun⟩
  have known : ¬ versed.UnknownTier := fun unknown => absurd unknown.unknown (by decide +kernel)
  have refused := (build_fails versed lenientHost plain).2.2.1 known (by decide +kernel)
  rcases performed : (versed.build lenientHost).perform sharedScene with ⟨fault | engine, after⟩
  · rcases refused.of_error performed with rfl | unprobed
    · exact ⟨after, rfl⟩
    · cases unprobed.unset
  · exact (refused.of_ok performed).elim

/-- A builder for a level that is none. -/
def hasty : EngineBuilder where
  config := { tier := .text "micro", optimizationLevel := .text "turbo" }

theorem hasty_plain : hasty.Plain :=
  ⟨trivial, .inr trivial, trivial, trivial, nofun, rfl, nofun⟩

/-- All artifacts are there and the level is none, but the build does not end with a refusal. -/
theorem hasty_strays : hasty.Equipped lenientHost sharedScene ∧
    ∃ after, (hasty.build lenientHost).perform sharedScene =
      (.error (.misuse (.unknownOptimization "turbo")), after) := by
  have equipped : hasty.Equipped lenientHost sharedScene := ⟨_, _, _, _, rfl, rfl, by rfl⟩
  exact ⟨equipped, build_of_unknownLevel hasty_plain (by simp [hasty, Optimization.names]) equipped⟩

end EngineBuilder

end RecallChat
