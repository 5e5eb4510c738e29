import RecallChat.Engine
import RecallChat.Proofs.Archive.Restoring
import RecallChat.Proofs.Archive.Rollback

/-!
# Building an engine

Building loads the parts of an engine one after the other and restores an archive last.  Loading
acts on the host alone, so it leaves sessions and memory as they were, however it ends
(`loadParts_spares`); restoring leaves them alone or merges all rows of the archive.  So a build
that fails has changed nothing of what is shared with the engine, and one that succeeds has merged
the archive into it once (`build_all_or_nothing`).

An archive can be given or opened at a path.  Where the host keeps the files that it is given
(`Host.KeepsFiles`), the one that is opened shows the tables of the database at the path when the
build began, so it is their rows that are merged (`merges_of_opened`).
-/

set_option autoImplicit false

namespace RecallChat

/-! ## Parts of the world that are left alone -/

namespace Action

variable {σ τ α β : Type}

/-- That an action leaves a part of the world as it was, however it ends. -/
def Spares (part : σ → τ) (action : Action σ α) : Prop :=
  ∀ scene, part (action.perform scene).2.world = part scene.world

namespace Spares

variable {part : σ → τ}

theorem of_perform {action : Action σ α} (spares : Spares part action) {scene after : Scene σ}
    {outcome : Except Fault α} (performed : action.perform scene = (outcome, after)) :
    part after.world = part scene.world := by
  have same := spares scene
  rw [performed] at same
  exact same

theorem pure (value : α) : Spares part (Pure.pure value : Action σ α) := fun _ => rfl

theorem log (level : Level) (source : String) (message : Text.CodePoints) :
    Spares part (Action.log level source message) := fun _ => rfl

theorem world : Spares part (Action.world : Action σ σ) := fun _ => rfl

theorem ofExcept (outcome : Except Fault α) : Spares part (Action.ofExcept outcome) := by
  intro scene
  rw [perform_ofExcept]

theorem bind {action : Action σ α} (first : Spares part action) {next : α → Action σ β}
    (second : ∀ value, Spares part (next value)) : Spares part (action >>= next) := by
  intro scene
  rw [perform_bind, ← first scene]
  rcases action.perform scene with ⟨_ | value, after⟩
  · rfl
  · exact second value after

theorem ite (condition : Prop) [Decidable condition] {yes no : Action σ α}
    (first : Spares part yes) (second : Spares part no) :
    Spares part (if condition then yes else no) := by
  split
  · exact first
  · exact second

end Spares

end Action

/-! ## Actions of the host -/

namespace Host

variable {σ α : Type} (host : Host σ)

theorem inside_spares (action : Action σ α) :
    Action.Spares Conversing.chat (Host.inside action) := fun _ => rfl

theorem onFiles_spares (action : Action ArchiveFiles α) :
    Action.Spares Conversing.chat (host.onFiles action) := inside_spares _

theorem setUpLog_spares (path level : Value) :
    Action.Spares Conversing.chat (host.setUpLog path level) := fun _ => rfl

/-- Writing records to log files leaves alone what the action itself leaves alone. -/
theorem recorded_spares {action : Action (EngineWorld σ) α}
    (spares : Action.Spares Conversing.chat action) :
    Action.Spares Conversing.chat (host.recorded action) := fun _ => spares _

/-- An action on the files of the host ends as it does on these files. -/
theorem perform_onFiles {action : Action ArchiveFiles α} {scene : Scene (EngineWorld σ)}
    {outcome : Except Fault α} {after : Scene ArchiveFiles}
    (performed : action.perform ⟨host.files scene.world.inner.inner, scene.journal⟩ =
      (outcome, after)) : ∃ middle, (host.onFiles action).perform scene = (outcome, middle) := by
  have ended : ((host.onFiles action).perform scene).1 =
      (action.perform ⟨host.files scene.world.inner.inner, scene.journal⟩).1 := rfl
  exact ⟨_, Prod.ext (ended.trans (congrArg Prod.fst performed)) rfl⟩

/-- That a host has the files that were put into it. -/
def KeepsFiles : Prop := ∀ files inner, host.files (host.putFiles files inner) = files

/-- An action on the files of a host is performed on the files that it has, and the host then has
those that the action has left. -/
theorem KeepsFiles.onFiles {host : Host σ} (keeps : host.KeepsFiles)
    {action : Action ArchiveFiles α} {scene after : Scene (EngineWorld σ)} {value : α}
    (performed : (host.onFiles action).perform scene = (.ok value, after)) :
    ∃ left, action.perform ⟨host.files scene.world.inner.inner, scene.journal⟩ = (.ok value, left) ∧
      host.files after.world.inner.inner = left.world := by
  have outcome : (action.perform ⟨host.files scene.world.inner.inner, scene.journal⟩).1 = .ok value :=
    congrArg Prod.fst performed
  have put : after.world.inner.inner = host.putFiles
      (action.perform ⟨host.files scene.world.inner.inner, scene.journal⟩).2.world
      scene.world.inner.inner := by
    rw [← show ((host.onFiles action).perform scene).2 = after from congrArg Prod.snd performed]
    rfl
  exact ⟨_, Prod.ext outcome rfl, by rw [put, keeps]⟩

/-- A recorded action ends as it does with an empty journal. -/
theorem perform_recorded {action : Action (EngineWorld σ) α} (scene : Scene (EngineWorld σ))
    {after : Scene (EngineWorld σ)} {outcome : Except Fault α}
    (performed : action.perform ⟨scene.world, { scene.journal with records := [] }⟩ =
      (outcome, after)) :
    ∃ delivered, (host.recorded action).perform scene = (outcome, delivered) ∧
      delivered.world.chat = after.world.chat := by
  have recorded : (host.recorded action).perform scene =
      ((action.perform ⟨scene.world, { scene.journal with records := [] }⟩).1,
        ((host.recorded action).perform scene).2) := rfl
  have same : ((host.recorded action).perform scene).2.world.chat =
      (action.perform ⟨scene.world, { scene.journal with records := [] }⟩).2.world.chat := rfl
  rw [performed] at recorded same
  exact ⟨_, recorded, same⟩

end Host

namespace EngineBuilder

variable {σ : Type} (builder : EngineBuilder) (host : Host σ)

/-! ## Loading -/

/-- What is loaded of an engine before anything is restored. -/
structure Loaded (σ : Type) where
  paths : ModelPaths
  adapter : TokenizerAdapter σ
  chat : InferenceSession σ
  embedding : InferenceSession σ

/-- The steps of a build before anything is restored. -/
def loadParts : Action (EngineWorld σ) (Loaded σ) := do
  let config := builder.config
  if config.logFile.isTruthy then host.setUpLog config.logFile config.logLevel
  let paths ← host.recorded (builder.findModels host)
  let adapter ← host.recorded (Host.inside
    (TokenizerAdapter.ofFile host.isFile host.loadTokenizer paths.tokenizer config.endToken))
  let chat ← host.recorded (builder.loadModel host paths.chat)
  let embedding ← host.recorded (builder.loadModel host paths.embedding)
  return ⟨paths, adapter, chat, embedding⟩

/-- The steps of a build after loading. -/
def finish (loaded : Loaded σ) : Action (EngineWorld σ) (Engine σ) := do
  Action.change fun world => { world with chat := builder.startingChat world.chat }
  host.recorded (builder.restoreArchive host)
  let engine := builder.assemble host loaded.adapter loaded.chat loaded.embedding
  host.recorded (announce loaded.paths engine)
  return engine

/-- A build loads, and then restores. -/
theorem build_eq : builder.build host = builder.loadParts host >>= builder.finish host := by
  unfold build loadParts
  dsimp only
  split <;> simp only [bind_assoc, pure_bind] <;> rfl

theorem findModels_spares : Action.Spares Conversing.chat (builder.findModels host) := by
  refine (Host.inside_spares _).bind fun paths => Action.Spares.world.bind fun world =>
    (Action.Spares.ofExcept _).bind fun missing => ?_
  exact .ite _ ((Action.Spares.log _ _ _).bind fun _ => .pure _) (.pure _)

/-- **Loading leaves the sessions and the memory alone.** -/
theorem loadParts_spares : Action.Spares Conversing.chat (builder.loadParts host) := by
  have rest : Action.Spares Conversing.chat (do
      let paths ← host.recorded (builder.findModels host)
      let adapter ← host.recorded (Host.inside
        (TokenizerAdapter.ofFile host.isFile host.loadTokenizer paths.tokenizer
          builder.config.endToken))
      let chat ← host.recorded (builder.loadModel host paths.chat)
      let embedding ← host.recorded (builder.loadModel host paths.embedding)
      return (⟨paths, adapter, chat, embedding⟩ : Loaded σ)) := by
    refine (host.recorded_spares (builder.findModels_spares host)).bind fun paths => ?_
    refine (host.recorded_spares (Host.inside_spares _)).bind fun adapter => ?_
    refine (host.recorded_spares (Host.inside_spares _)).bind fun chat => ?_
    exact (host.recorded_spares (Host.inside_spares _)).bind fun embedding => .pure _
  exact .ite _ ((host.setUpLog_spares _ _).bind fun _ => rest) rest

/-! ## Restoring -/

variable {host}

theorem perform_restore {archive : Archive} {scene : Scene (EngineWorld σ)}
    {outcome : Except Fault Unit} {restored : ChatState} {after : Scene ArchiveFiles}
    (performed : (archive.restore scene.world.chat).perform
      ⟨host.files scene.world.inner.inner, scene.journal⟩ = (.ok (outcome, restored), after)) :
    ∃ left, (restore host archive).perform scene = (outcome, left) ∧
      left.world.chat = restored := by
  obtain ⟨middle, performed⟩ := host.perform_onFiles performed
  unfold restore
  rw [Action.perform_bind_of_ok (Action.perform_world scene), Action.perform_bind_of_ok performed]
  dsimp only
  rw [Action.perform_bind_of_ok (Action.perform_change _ middle), Action.perform_ofExcept]
  exact ⟨_, rfl, rfl⟩

variable (host)

/-- Restoring an archive fails and leaves the state alone, or merges the rows of the archive. -/
theorem restore_cases (archive : Archive) (scene : Scene (EngineWorld σ)) :
    (∃ fault after, (restore host archive).perform scene = (.error fault, after) ∧
        after.world.chat = scene.world.chat) ∨
      ∃ after, (restore host archive).perform scene = (.ok (), after) ∧
        (scene.world.chat.registry.Sound → archive.Restores (host.files scene.world.inner.inner)
          scene.world.chat after.world.chat) := by
  rcases archive.restore_cases scene.world.chat ⟨host.files scene.world.inner.inner, scene.journal⟩
    with ⟨fault, _, failed⟩ | ⟨restored, _, merged, restores⟩
  · obtain ⟨left, performed, same⟩ := perform_restore failed
    exact .inl ⟨fault, left, performed, same⟩
  · obtain ⟨left, performed, same⟩ := perform_restore merged
    exact .inr ⟨left, performed, same ▸ restores⟩

/-- That a state is another with the archive of a builder restored into it: the given one, or else
the one that is opened at the configured path, or none.  What is restored from a path are the rows of
the database that stands there. -/
inductive Restores (seen : Scene (EngineWorld σ)) (restored : ChatState) : Prop
  | given (archive : Archive) (given : builder.archive = some archive)
      (restores : archive.Restores (host.files seen.world.inner.inner) seen.world.chat restored)
  | configured (path : String) (archive : Archive) (opened : Scene (EngineWorld σ))
      (none : builder.archive = none) (configured : builder.config.archivePath.isTruthy = true)
      (named : archivePath builder.config.archivePath = .ok path)
      (opens : (host.onFiles (Archive.openAt path)).perform seen = (.ok archive, opened))
      (restores : archive.Restores (host.files opened.world.inner.inner) seen.world.chat restored)
      (merges : host.KeepsFiles →
        (Archive.tablesAt (host.files seen.world.inner.inner) (Archive.placeAt path)).Admitted →
        (Archive.tablesAt (host.files seen.world.inner.inner) (Archive.placeAt path)).Merges
          seen.world.chat restored)
  | nothing (none : builder.archive = none)
      (unset : ¬ builder.config.archivePath.isTruthy = true) (same : restored = seen.world.chat)

variable {host} in
/-- What an archive that was opened at a path restores are the rows of the database there. -/
theorem merges_of_opened (keeps : host.KeepsFiles) {path : String} {archive : Archive}
    {seen opened : Scene (EngineWorld σ)}
    (opens : (host.onFiles (Archive.openAt path)).perform seen = (.ok archive, opened))
    {before after : ChatState}
    (restores : archive.Restores (host.files opened.world.inner.inner) before after)
    (admitted :
      (Archive.tablesAt (host.files seen.world.inner.inner) (Archive.placeAt path)).Admitted) :
    (Archive.tablesAt (host.files seen.world.inner.inner) (Archive.placeAt path)).Merges
      before after := by
  obtain ⟨left, performed, files_eq⟩ := keeps.onFiles opens
  have shows := (Archive.openAt_eq_ok performed).current_eq
  rw [← files_eq] at shows
  have merges := restores.merges
  rw [shows] at merges
  exact merges admitted

/-- Opens the archive at a path, restores it and closes it. -/
def restoreAt (path : String) : Action (EngineWorld σ) Unit := do
  let archive ← host.onFiles (Archive.openAt path)
  restore host archive
  let _ ← host.onFiles archive.closeAlone

theorem restoreAt_cases (path : String) (scene : Scene (EngineWorld σ)) :
    (∃ fault after, (restoreAt host path).perform scene = (.error fault, after) ∧
        after.world.chat = scene.world.chat) ∨
      ∃ archive opened after, (restoreAt host path).perform scene = (.ok (), after) ∧
        (host.onFiles (Archive.openAt path)).perform scene = (.ok archive, opened) ∧
        (scene.world.chat.registry.Sound → archive.Restores (host.files opened.world.inner.inner)
          scene.world.chat after.world.chat) := by
  have spares := host.onFiles_spares (Archive.openAt path)
  unfold restoreAt
  rcases opens : (host.onFiles (Archive.openAt path)).perform scene with ⟨fault | archive, opened⟩
  · rw [Action.perform_bind_of_error opens]
    exact .inl ⟨fault, opened, rfl, spares.of_perform opens⟩
  · have same : opened.world.chat = scene.world.chat := spares.of_perform opens
    rw [Action.perform_bind_of_ok opens]
    rcases restore_cases host archive opened with
      ⟨fault, after, failed, unchanged⟩ | ⟨after, performed, restores⟩
    · rw [Action.perform_bind_of_error failed]
      exact .inl ⟨fault, after, rfl, unchanged.trans same⟩
    · rw [Action.perform_bind_of_ok performed]
      rw [same] at restores
      exact .inr ⟨archive, opened, _, rfl, rfl, restores⟩

variable {host} in
/-- An open archive that shows the snapshot of a state is restored. -/
theorem perform_restore_of_snapshot {archive : Archive} (isOpen : archive.isOpen = true)
    {scene : Scene (EngineWorld σ)} {state : ChatState} (storable : state.Storable)
    (shows : archive.current (host.files scene.world.inner.inner) = ⟨state.snapshot, none⟩)
    (sound : scene.world.chat.registry.Sound) :
    ∃ after, (restore host archive).perform scene = (.ok (), after) := by
  obtain ⟨_, merged, _⟩ := storable.restoreInto_snapshot sound
  obtain ⟨_, restored⟩ := archive.perform_restore isOpen
    ⟨host.files scene.world.inner.inner, scene.journal⟩ shows merged
  obtain ⟨after, performed, _⟩ := perform_restore restored
  exact ⟨after, performed⟩

variable {host} in
/-- If the database at a path holds the snapshot of a state, it is restored from there. -/
theorem perform_restoreAt_of_snapshot (keeps : host.KeepsFiles) {path : String} {archive : Archive}
    {scene opened : Scene (EngineWorld σ)}
    (opens : (host.onFiles (Archive.openAt path)).perform scene = (.ok archive, opened))
    {state : ChatState} (storable : state.Storable)
    (holds : Archive.tablesAt (host.files scene.world.inner.inner) (Archive.placeAt path) =
      state.snapshot) (sound : scene.world.chat.registry.Sound) :
    ∃ after, (restoreAt host path).perform scene = (.ok (), after) := by
  obtain ⟨left, performed, files_eq⟩ := keeps.onFiles opens
  have shows := Archive.openAt_eq_ok performed
  have same : opened.world.chat = scene.world.chat := (host.onFiles_spares _).of_perform opens
  have current_eq := shows.current_eq
  rw [← files_eq, holds] at current_eq
  obtain ⟨after, restored⟩ :=
    perform_restore_of_snapshot shows.isOpen storable current_eq (same ▸ sound)
  unfold restoreAt
  rw [Action.perform_bind_of_ok opens, Action.perform_bind_of_ok restored]
  exact ⟨_, rfl⟩

/-- Restoring the archive of a builder, if it has one, fails and leaves the state alone, or merges
the rows of the archive. -/
theorem restoreArchive_cases (scene : Scene (EngineWorld σ)) :
    (∃ fault after, (builder.restoreArchive host).perform scene = (.error fault, after) ∧
        after.world.chat = scene.world.chat) ∨
      ∃ after, (builder.restoreArchive host).perform scene = (.ok (), after) ∧
        (scene.world.chat.registry.Sound → builder.Restores host scene after.world.chat) := by
  unfold restoreArchive
  dsimp only
  cases given : builder.archive with
  | some archive =>
      rcases restore_cases host archive scene with failed | ⟨after, performed, restores⟩
      · exact .inl failed
      · exact .inr ⟨after, performed, fun sound => .given archive given (restores sound)⟩
  | none =>
      dsimp only
      by_cases configured : builder.config.archivePath.isTruthy = true
      · rw [if_pos configured]
        cases named : archivePath builder.config.archivePath with
        | error fault => exact .inl ⟨fault, scene, rfl, rfl⟩
        | ok path =>
            rw [Action.perform_bind_of_ok (Action.perform_ofExcept _ scene)]
            rcases restoreAt_cases host path scene with
              failed | ⟨archive, opened, after, performed, opens, restores⟩
            · exact .inl failed
            · exact .inr ⟨after, performed, fun sound =>
                .configured path archive opened given configured named opens (restores sound)
                  fun keeps => merges_of_opened keeps opens (restores sound)⟩
      · rw [if_neg configured]
        exact .inr ⟨scene, rfl, fun _ => .nothing given configured rfl⟩

/-! ## Building -/

/-- The scene in which a build restores its archive: the sessions and the memory are those that the
engine starts with. -/
def restoring (scene : Scene (EngineWorld σ)) : Scene (EngineWorld σ) :=
  ⟨{ scene.world with chat := builder.startingChat scene.world.chat },
    { scene.journal with records := [] }⟩

variable {builder host}

theorem perform_finish_of_failed (loaded : Loaded σ) {scene after : Scene (EngineWorld σ)}
    {fault : Fault}
    (failed : (builder.restoreArchive host).perform (builder.restoring scene) =
      (.error fault, after)) :
    ∃ left, (builder.finish host loaded).perform scene = (.error fault, left) ∧
      left.world.chat = after.world.chat := by
  obtain ⟨delivered, ended, chat_eq⟩ := host.perform_recorded
    ⟨{ scene.world with chat := builder.startingChat scene.world.chat }, scene.journal⟩ failed
  unfold finish
  rw [Action.perform_bind_of_ok (Action.perform_change _ scene), Action.perform_bind_of_error ended]
  exact ⟨delivered, rfl, chat_eq⟩

theorem perform_announce (paths : ModelPaths) (engine : Engine σ) (scene : Scene (EngineWorld σ)) :
    ∃ announced, (host.recorded (announce paths engine)).perform scene = (.ok (), announced) ∧
      announced.world.chat = scene.world.chat := by
  obtain ⟨announced, announces, same⟩ := host.perform_recorded scene
    (Prod.ext rfl rfl : (announce paths engine).perform _ = (.ok (), _))
  exact ⟨announced, announces, same⟩

theorem perform_finish_of_restored (loaded : Loaded σ) {scene after : Scene (EngineWorld σ)}
    (restored : (builder.restoreArchive host).perform (builder.restoring scene) = (.ok (), after)) :
    ∃ left, (builder.finish host loaded).perform scene =
        (.ok (builder.assemble host loaded.adapter loaded.chat loaded.embedding), left) ∧
      left.world.chat = after.world.chat := by
  obtain ⟨delivered, ended, chat_eq⟩ := host.perform_recorded
    ⟨{ scene.world with chat := builder.startingChat scene.world.chat }, scene.journal⟩ restored
  obtain ⟨announced, announces, chat_eq'⟩ := perform_announce loaded.paths
    (builder.assemble host loaded.adapter loaded.chat loaded.embedding) delivered
  unfold finish
  rw [Action.perform_bind_of_ok (Action.perform_change _ scene), Action.perform_bind_of_ok ended]
  dsimp only
  rw [Action.perform_bind_of_ok announces]
  exact ⟨announced, rfl, chat_eq'.trans chat_eq⟩

theorem startingChat_sound {present : ChatState} (sound : present.registry.Sound) :
    (builder.startingChat present).registry.Sound := by
  unfold startingChat
  dsimp only
  split
  · exact sound
  · exact Registry.sound_empty _ _

/-- That what is shared with an engine is as it was. -/
structure SharedUnchanged (builder : EngineBuilder) (before after : ChatState) : Prop where
  registry : builder.sharesSessions = true → after.registry = before.registry
  memory : builder.sharesMemory = true → after.memory = before.memory

theorem sharedUnchanged_startingChat (present : ChatState) :
    builder.SharedUnchanged present (builder.startingChat present) :=
  ⟨fun shares => if_pos shares, fun shares => if_pos shares⟩

/-- **A build that fails leaves alone what is shared with the engine, and one that succeeds has
merged the archive into it once.** -/
theorem build_all_or_nothing (builder : EngineBuilder) (host : Host σ)
    (scene : Scene (EngineWorld σ)) :
    (∃ fault after, (builder.build host).perform scene = (.error fault, after) ∧
        builder.SharedUnchanged scene.world.chat after.world.chat) ∨
      ∃ loaded middle after, (builder.loadParts host).perform scene = (.ok loaded, middle) ∧
        middle.world.chat = scene.world.chat ∧
        (builder.build host).perform scene =
          (.ok (builder.assemble host loaded.adapter loaded.chat loaded.embedding), after) ∧
        (scene.world.chat.registry.Sound →
          builder.Restores host (builder.restoring middle) after.world.chat) := by
  have spares := builder.loadParts_spares host
  rw [build_eq]
  rcases loads : (builder.loadParts host).perform scene with ⟨fault | loaded, middle⟩
  · have same : middle.world.chat = scene.world.chat := spares.of_perform loads
    rw [Action.perform_bind_of_error loads]
    exact .inl ⟨fault, middle, rfl, fun _ => by rw [same], fun _ => by rw [same]⟩
  · have same : middle.world.chat = scene.world.chat := spares.of_perform loads
    rw [Action.perform_bind_of_ok loads]
    rcases builder.restoreArchive_cases host (builder.restoring middle) with
      ⟨fault, after, failed, unchanged⟩ | ⟨after, restored, restores⟩
    · obtain ⟨left, ended, chat_eq⟩ := perform_finish_of_failed loaded failed
      refine .inl ⟨fault, left, ended, ?_⟩
      rw [chat_eq, unchanged, ← same]
      exact sharedUnchanged_startingChat _
    · obtain ⟨left, ended, chat_eq⟩ := perform_finish_of_restored loaded restored
      refine .inr ⟨loaded, middle, left, rfl, same, ended, fun sound => ?_⟩
      rw [chat_eq]
      exact restores (startingChat_sound (same ▸ sound))

/-- A host whose world is its files, and whose token library and backend take every file. -/
def lenientHost : Host ArchiveFiles where
  memoryProbe := pure (.integer 0)
  loadTokenizer _ := pure ⟨pure 0, pure [], fun _ => pure [], fun _ => pure "", pure none⟩
  backend :=
    ⟨pure [Backend.baseline], fun _ _ provider =>
      pure ⟨pure [provider], pure [], pure [], fun _ _ => pure []⟩⟩
  clock := pure (.integer 0)
  files := id
  putFiles files _ := files

/-- A state with one memory. -/
def noted : ChatState := ⟨.standard, ⟨[⟨.text "note", []⟩]⟩⟩

theorem storable_noted : noted.Storable :=
  ⟨Registry.sound_empty _ _, nofun, nofun, nofun, by simp [noted, Column.keeps_text]⟩

/-- Files with the artifacts of the smallest tier, and a database with one memory. -/
def smallestModels : ArchiveFiles :=
  let models := FileSystem.workingPlace ++ [.ofString "models"]
  let directory := models ++ [.ofString "micro"]
  ⟨[(FileSystem.workingPlace, .directory), (models, .directory), (directory, .directory),
    (directory ++ [.ofString "qwen2-0.5b-instruct.onnx"], .file ⟨#[]⟩),
    (directory ++ [.ofString "embedding.onnx"], .file ⟨#[]⟩),
    (directory ++ [.ofString "tokenizer.json"], .file ⟨#[]⟩),
    (FileSystem.workingPlace ++ [.ofString "chat.db"], .database noted.snapshot)]⟩

/-- A builder that shares sessions and memory, with the database as its configured archive. -/
def sharing (archive : Option Archive) : EngineBuilder where
  config := { tier := .text "micro", archivePath := .text "chat.db" }
  archive := archive
  sharesSessions := true
  sharesMemory := true

/-- A world with these files, and with a small state to share. -/
def sharedScene : Scene (EngineWorld ArchiveFiles) :=
  ⟨⟨Hosted.start smallestModels, Archive.small⟩, ⟨0, []⟩⟩

/-- The parts are loaded, and then the database is still there and can be opened. -/
theorem sharing_loads (archive : Option Archive) : ∃ loaded middle,
    ((sharing archive).loadParts lenientHost).perform sharedScene = (.ok loaded, middle) ∧
      Archive.tablesAt middle.world.inner.inner (Archive.placeAt "chat.db") = noted.snapshot ∧
      ∃ opened, Archive.openShared middle.world.inner.inner "chat.db" = .ok opened := by
  have same : (sharing archive).loadParts lenientHost = (sharing none).loadParts lenientHost := rfl
  rw [same]
  have checked : (((sharing none).loadParts lenientHost).perform sharedScene).1.toOption.isSome =
        true ∧
      Archive.tablesAt (((sharing none).loadParts lenientHost).perform
        sharedScene).2.world.inner.inner (Archive.placeAt "chat.db") = noted.snapshot ∧
      (Archive.openShared (((sharing none).loadParts lenientHost).perform
        sharedScene).2.world.inner.inner "chat.db").toOption.isSome = true := by
    decide +kernel
  rcases performed : ((sharing none).loadParts lenientHost).perform sharedScene with
    ⟨_ | loaded, middle⟩
  · rw [performed] at checked
    cases checked.1
  · rw [performed] at checked
    obtain ⟨_, holds, opens⟩ := checked
    cases shared : Archive.openShared middle.world.inner.inner "chat.db" with
    | error _ =>
        rw [shared] at opens
        cases opens
    | ok opened => exact ⟨loaded, middle, rfl, holds, opened, shared⟩

theorem sharing_restores {archive : Option Archive} {middle : Scene (EngineWorld ArchiveFiles)}
    (given : archive = none ∨ archive = some Archive.holding)
    (same : middle.world.chat = Archive.small)
    (holds : Archive.tablesAt middle.world.inner.inner (Archive.placeAt "chat.db") = noted.snapshot)
    (opens : ∃ opened, Archive.openShared middle.world.inner.inner "chat.db" = .ok opened) :
    ∃ after, ((sharing archive).restoreArchive lenientHost).perform
      ((sharing archive).restoring middle) = (.ok (), after) := by
  have sound : ((sharing archive).restoring middle).world.chat.registry.Sound := by
    have started : ((sharing archive).restoring middle).world.chat = Archive.small := same
    rw [started]
    exact Archive.storable_small.sound
  rcases given with rfl | rfl
  · obtain ⟨⟨place, tables, files⟩, opens⟩ := opens
    have shared : ¬ ("chat.db" = Archive.inMemory ∨ "chat.db" = "") := by decide
    have performed : ∃ archive opened, (lenientHost.onFiles (Archive.openAt "chat.db")).perform
        ((sharing none).restoring middle) = (.ok archive, opened) := by
      obtain ⟨opened, performed⟩ := lenientHost.perform_onFiles <|
        Archive.perform_openAt_of_shared shared (show Archive.openShared (lenientHost.files
          ((sharing none).restoring middle).world.inner.inner) "chat.db" = _ from opens)
      exact ⟨_, opened, performed⟩
    obtain ⟨archive, opened, performed⟩ := performed
    exact perform_restoreAt_of_snapshot (fun _ _ => rfl) performed storable_noted holds sound
  · exact perform_restore_of_snapshot rfl Archive.storable_small rfl sound

/-- Building merges the rows of a given archive into what is shared, and without one those of the
database at the configured path. -/
theorem sharing_builds :
    (∃ engine after, ((sharing (some Archive.holding)).build lenientHost).perform sharedScene =
        (.ok engine, after) ∧ Archive.small.snapshot.Merges Archive.small after.world.chat) ∧
      ∃ engine after, ((sharing none).build lenientHost).perform sharedScene =
        (.ok engine, after) ∧ noted.snapshot.Merges Archive.small after.world.chat := by
  have builds (archive : Option Archive) (given : archive = none ∨ archive = some Archive.holding) :
      ∃ engine middle after, middle.world.chat = Archive.small ∧
        Archive.tablesAt middle.world.inner.inner (Archive.placeAt "chat.db") = noted.snapshot ∧
        ((sharing archive).build lenientHost).perform sharedScene = (.ok engine, after) ∧
        (sharing archive).Restores lenientHost ((sharing archive).restoring middle)
          after.world.chat := by
    obtain ⟨loaded, middle, loads, holds, opens⟩ := sharing_loads archive
    have same : middle.world.chat = Archive.small :=
      ((sharing archive).loadParts_spares lenientHost).of_perform loads
    rcases build_all_or_nothing (sharing archive) lenientHost sharedScene with
      ⟨fault, after, failed, _⟩ | ⟨loaded', middle', after, loads', _, built, restores⟩
    · obtain ⟨_, restored⟩ := sharing_restores given same holds opens
      obtain ⟨left, finished, _⟩ := perform_finish_of_restored loaded restored
      rw [build_eq, Action.perform_bind_of_ok loads, finished] at failed
      cases failed
    · rw [loads] at loads'
      cases loads'
      exact ⟨_, middle, after, same, holds, built, restores Archive.storable_small.sound⟩
  constructor
  · obtain ⟨engine, middle, after, same, _, built, restores⟩ := builds _ (.inr rfl)
    refine ⟨engine, after, built, ?_⟩
    have started : ((sharing (some Archive.holding)).restoring middle).world.chat = Archive.small :=
      same
    cases restores with
    | given archive given restores =>
        cases given
        have merged := restores.merges Archive.storable_small.admitted
        rw [started] at merged
        exact merged
    | configured path archive opened none => cases none
    | nothing none => cases none
  · obtain ⟨engine, middle, after, same, holds, built, restores⟩ := builds _ (.inl rfl)
    refine ⟨engine, after, built, ?_⟩
    have started : ((sharing none).restoring middle).world.chat = Archive.small := same
    cases restores with
    | given archive given => cases given
    | configured path archive opened _ configured named opens restores merges =>
        have path_eq : "chat.db" = path := Except.ok.inj named
        subst path_eq
        have there : Archive.tablesAt (lenientHost.files
            ((sharing none).restoring middle).world.inner.inner) (Archive.placeAt "chat.db") =
          noted.snapshot := holds
        have merged := merges fun _ _ => rfl
        rw [there, started] at merged
        exact merged storable_noted.admitted
    | nothing none unset => exact (unset rfl).elim

end EngineBuilder

end RecallChat
