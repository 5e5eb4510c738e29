import RecallChat.Proofs.Engine.Layers

/-!
# Forming a configuration

A configuration is formed of layers in three steps: the file makes one, its values are taken apart,
and the other layers are laid over it (`ChatConfig.Gives.ofArguments_eq`).  The layers are refused as
they say, but for two ways in which the forming goes astray (`Layers.Strays`): providers with an
integer of too many digits are refused with a message that cannot be written, and a value that holds
itself cannot be taken apart, although it makes a configuration and may be laid over
(`ChatConfig.layers_form`).
-/

set_option autoImplicit false

namespace RecallChat.ChatConfig

variable {files : ArchiveFiles} {arguments : List (String × Value)} {layers : Layers}
  {base : ChatConfig}

/-! ## The steps -/

theorem eraseDups_of_nodup {names : List String} (distinct : names.Nodup) :
    names.eraseDups = names := by
  induction names with
  | nil => rfl
  | cons name rest ih =>
      obtain ⟨notLater, distinct'⟩ := List.nodup_cons.mp distinct
      have kept : rest.filter (fun other => !other == name) = rest :=
        List.filter_eq_self.mpr fun other member => by
          rw [Bool.not_eq_true', beq_eq_false_iff_ne]
          rintro rfl
          exact notLater member
      rw [List.eraseDups_cons, kept, ih distinct']

theorem pathArgument_of_toPath {argument : Value} {path : Path}
    (asked : argument.toPath = .ok path) : pathArgument argument = .ok (some path) := by
  cases argument with
  | null => cases asked
  | _ => exact congrArg (Except.map some) asked

/-- Forming a configuration in steps. -/
theorem Gives.ofArguments_eq (gives : Gives files arguments layers) :
    ofArguments files arguments = ofEntries layers.file >>= fun base =>
      if base.settings.any fun setting => setting.2.isRecursive then
        .error (.outside .endlessNesting "a value that holds itself")
      else ofEntries (layers.merged base) := by
  have once : ¬ (arguments.map Prod.fst).eraseDups.length ≠ (arguments.map Prod.fst).length :=
    not_not.mpr (congrArg List.length (eraseDups_of_nodup gives.distinct))
  have directory : directoryArgument (argument arguments "models_dir") = .ok layers.directory := by
    rcases gives.directory with ⟨absent, none⟩ | ⟨string, some⟩
    · rw [absent, none]
      rfl
    · rw [some]
      cases given : argument arguments "models_dir" with
      | text path => rfl
      | illFormed points => rfl
      | _ =>
          rw [given] at string
          exact string.elim
  let settings := Value.textual
    (arguments.filter fun argument => !namedArguments.contains argument.1)
  have laid (base : ChatConfig) :
      base.override settings layers.directory = ofEntries (layers.merged base) := by
    rw [← gives.override_eq, gives.keywords]
  have finish (base : ChatConfig) :
      (if base.settings.any fun setting => setting.2.isRecursive then do
          throw (.outside .endlessNesting "a value that holds itself")
          base.override settings layers.directory
        else base.override settings layers.directory) =
      if base.settings.any fun setting => setting.2.isRecursive then
        .error (.outside .endlessNesting "a value that holds itself")
      else ofEntries (layers.merged base) := by
    rw [laid]
    rfl
  unfold ofArguments
  rw [if_neg once, directory]
  rcases gives.file.null_or_path with ⟨absent, nothing⟩ | ⟨path, asked⟩
  · rw [absent, nothing]
    exact finish {}
  · rw [← gives.file.ofFile_eq asked, pathArgument_of_toPath asked]
    exact congrArg (ofFile files path >>= ·) (funext finish)

/-- The configuration of a file has a setting that holds itself when the file has one. -/
theorem Gives.nests_iff (gives : Gives files arguments layers)
    (filed : ¬ Layers.Misfiled layers.file) (made : ofEntries layers.file = .ok base) :
    (base.settings.any fun setting => setting.2.isRecursive) = true ↔ layers.Nests := by
  obtain ⟨known, named⟩ := not_not.mp (mt gives.file.misfiled_iff.mpr filed)
  have settled := (settings_of_ofEntries made).2
  rw [List.any_eq_true]
  constructor
  · rintro ⟨setting, member, nests⟩
    rcases settled setting member with rfl | ⟨_, same⟩
    · have names : IsNames base.providersValue := isNames_providersValue base
      rw [names.flat] at nests
      cases nests
    · cases found : Value.find? (.text setting.1) layers.file with
      | none =>
          have standard := standardValue_flat (mem_names_of_mem member)
          rw [same, found, Option.getD_none, standard] at nests
          cases nests
      | some value =>
          rw [same, found] at nests
          exact ⟨setting.1, value, found, nests⟩
  · rintro ⟨name, value, found, nests⟩
    have member := Value.mem_of_find? (by exact trivial) found
    obtain ⟨other, setting, same⟩ :=
      unknownKeys_eq_nil_iff.mp known _ (List.mem_map_of_mem member)
    cases Value.text.inj same
    obtain ⟨value', at', _⟩ := exists_setting base setting
    rcases settled _ at' with own | ⟨_, given⟩
    · cases congrArg Prod.fst own
      rw [givenProviders_of_find? found] at named
      rw [named.flat] at nests
      cases nests
    · rw [found] at given
      exact ⟨_, at', given ▸ nests⟩

/-! ## Outcomes -/

theorem Gives.exists_base (gives : Gives files arguments layers)
    (filed : ¬ Layers.Misfiled layers.file) : ∃ base, ofEntries layers.file = .ok base := by
  obtain ⟨known, names⟩ := not_not.mp (mt gives.file.misfiled_iff.mpr filed)
  obtain ⟨given, read⟩ := providerNames_of_isNames names
  exact ofEntries_of_providerNames known read

/-- Where the file is in order and no value holds itself, the layers are laid over each other. -/
theorem Gives.ofArguments_of_flat (gives : Gives files arguments layers)
    (filed : ¬ Layers.Misfiled layers.file) (flat : ¬ layers.Nests)
    (made : ofEntries layers.file = .ok base) :
    ofArguments files arguments = ofEntries (layers.merged base) := by
  rw [gives.ofArguments_eq, made]
  exact if_neg (mt (gives.nests_iff filed made).mp flat)

theorem Gives.ofArguments_of_misfiled (gives : Gives files arguments layers) {fault : Fault}
    (failed : ofEntries layers.file = .error fault) :
    ofArguments files arguments = .error fault := by
  rw [gives.ofArguments_eq, failed]
  rfl

/-- Forming a configuration goes astray as it is said. -/
theorem Gives.strays (gives : Gives files arguments layers) {fault : Fault}
    (strays : layers.Strays fault) : ofArguments files arguments = .error fault := by
  cases strays with
  | filed known given unfit unwritable =>
      refine gives.ofArguments_of_misfiled (Upsets.providers ?_ ?_ ?_).fails
      · exact unknownKeys_eq_nil_iff.mpr known
      · rw [givenProviders_of_find? given]
        exact (gives.file.isNames_iff given).mpr unfit
      · rw [givenProviders_of_find? given]
        exact unwritable
  | nesting filed nests =>
      obtain ⟨base, made⟩ := gives.exists_base filed
      rw [gives.ofArguments_eq, made]
      exact if_pos ((gives.nests_iff filed made).mpr nests)
  | final filed flat known unfit unwritable =>
      obtain ⟨base, made⟩ := gives.exists_base filed
      rw [gives.ofArguments_of_flat filed flat made]
      refine ofEntries_of_providerNames_error (Layers.unknownKeys_merged.mpr known) ?_
      rw [gives.providerNames_merged made, providerNames_of_not_isNames unfit,
        Value.inQuotes_of_not_isWritable unwritable]
      rfl

/-- Layers that are laid over each other make a configuration that has their values. -/
theorem Gives.settles (gives : Gives files arguments layers)
    (made : ofEntries layers.file = .ok base)
    (known : ∀ name ∈ layers.keywords.map Prod.fst, name ∈ names)
    (fit : IsNames (layers.value "providers")) :
    ∃ config, ofEntries (layers.merged base) = .ok config ∧ layers.Settle config := by
  obtain ⟨given, read⟩ := providerNames_of_isNames fit
  rw [← gives.providerNames_merged made] at read
  obtain ⟨config, whole⟩ := ofEntries_of_providerNames (Layers.unknownKeys_merged.mpr known) read
  obtain ⟨providers, settled⟩ := settings_of_ofEntries whole
  refine ⟨config, whole, fun name value member apart => ?_, ?_⟩
  · rcases settled _ member with own | ⟨_, same⟩
    · exact absurd (congrArg Prod.fst own) apart
    · exact same.trans (gives.getD_merged made (mem_names_of_mem member) apart)
  · rw [gives.providerNames_merged made] at providers
    exact providerNames_eq_ok_iff.mp providers

/-- A file that is not in order is refused, or its providers cannot be quoted. -/
theorem Gives.misfiled_cases (gives : Gives files arguments layers)
    (misfiled : Layers.Misfiled layers.file) :
    (∃ cause, Unfit layers.file cause) ∨
      Upsets layers.file Value.unwritable ∧ layers.Strays Value.unwritable := by
  by_cases known : unknownKeys layers.file = []
  · have unfit : ¬ IsNames (givenProviders layers.file) := fun names =>
      gives.file.misfiled_iff.mp misfiled ⟨known, names⟩
    have given := find?_of_not_isNames unfit
    cases writable : (givenProviders layers.file).isWritable with
    | true => exact .inl ⟨_, .providers known unfit writable⟩
    | false =>
        exact .inr ⟨.providers known unfit writable, .filed (unknownKeys_eq_nil_iff.mp known) given
          ((gives.file.isNames_iff given).mp unfit) writable⟩
  · refine .inl (refused_of_unknown (fun key member => ?_) known)
    obtain ⟨entry, at', rfl⟩ := List.mem_map.mp member
    exact gives.file.textual entry at'

theorem Layers.accepted (layers : Layers) (filed : ¬ Layers.Misfiled layers.file)
    (known : ∀ name ∈ layers.keywords.map Prod.fst, name ∈ names)
    (fit : IsNames (layers.value "providers")) : ¬ layers.Rejected := by
  rintro (misfiled | ⟨given, unknown⟩ | unfit)
  · exact filed misfiled
  · exact unknown (known _ given)
  · exact unfit fit

/-- Providers of a file that is in order are names where nothing is above them. -/
theorem Gives.fit_of_filed (gives : Gives files arguments layers)
    (filed : ¬ Layers.Misfiled layers.file) (bare : layers.above? "providers" = none) :
    IsNames (layers.value "providers") := by
  rw [Layers.value, bare]
  exact (not_not.mp (mt gives.file.misfiled_iff.mpr filed)).2

/-- Layers are refused, or go astray, or make a configuration that has their values. -/
theorem Gives.outcomes (gives : Gives files arguments layers) :
    (layers.Rejected ∧ ∃ cause, ofArguments files arguments = .error (.config cause)) ∨
      (∃ fault, layers.Strays fault) ∨
      ¬ layers.Rejected ∧ ∃ config, ofArguments files arguments = .ok config ∧
        layers.Settle config := by
  by_cases misfiled : Layers.Misfiled layers.file
  · rcases gives.misfiled_cases misfiled with ⟨cause, unfit⟩ | ⟨_, strays⟩
    · exact .inl ⟨.file misfiled, cause, gives.ofArguments_of_misfiled unfit.fails⟩
    · exact .inr (.inl ⟨_, strays⟩)
  by_cases nests : layers.Nests
  · exact .inr (.inl ⟨_, .nesting misfiled nests⟩)
  obtain ⟨base, made⟩ := gives.exists_base misfiled
  rw [gives.ofArguments_of_flat misfiled nests made]
  by_cases known : ∀ name ∈ layers.keywords.map Prod.fst, name ∈ names
  · by_cases fit : IsNames (layers.value "providers")
    · exact .inr (.inr ⟨layers.accepted misfiled known fit, gives.settles made known fit⟩)
    · cases writable : (layers.value "providers").isWritable with
      | true =>
          have refused : ofEntries (layers.merged base) =
              .error (.config (.providersNotNames (layers.value "providers").shown)) := by
            refine ofEntries_of_providerNames_error (Layers.unknownKeys_merged.mpr known) ?_
            rw [gives.providerNames_merged made, providerNames_of_not_isNames fit,
              Value.inQuotes_of_isWritable writable]
            rfl
          exact .inl ⟨.providers fit, _, refused⟩
      | false => exact .inr (.inl ⟨_, .final misfiled nests known fit writable⟩)
  · obtain ⟨cause, unfit⟩ := refused_of_unknown (fun key => Layers.isString_of_mem_merged)
      (mt Layers.unknownKeys_merged.mp known)
    push Not at known
    obtain ⟨name, given, unknown⟩ := known
    exact .inl ⟨.keyword given unknown, cause, unfit.fails⟩

/-! ## Forming -/

/-- A file that makes a configuration is in order. -/
theorem Gives.filed_of_made (gives : Gives files arguments layers)
    (made : ofEntries layers.file = .ok base) : ¬ Layers.Misfiled layers.file := by
  intro misfiled
  rcases gives.misfiled_cases misfiled with ⟨cause, unfit⟩ | ⟨upsets, _⟩
  · rw [unfit.fails] at made
    cases made
  · rw [upsets.fails] at made
    cases made

/-- With nothing above it a file has the configuration that is read from it. -/
theorem Gives.ofArguments_of_bare (gives : Gives files arguments layers)
    (noKeywords : layers.keywords = []) (noDirectory : layers.directory = none)
    (flat : ¬ layers.Nests) : ofArguments files arguments = ofEntries layers.file := by
  rw [gives.ofArguments_eq]
  cases made : ofEntries layers.file with
  | error fault => rfl
  | ok base =>
      have bare : layers.merged base = base.toEntries := by
        rw [Layers.merged, noKeywords, noDirectory]
        rfl
      have level := mt (gives.nests_iff (gives.filed_of_made made) made).mp flat
      change (if base.settings.any fun setting => setting.2.isRecursive then _ else _) = _
      rw [if_neg level, bare, ofEntries_toEntries]

/-- An engine is built from the configuration that is formed, or not at all. -/
theorem create_eq {σ : Type} (host : Host σ) (arguments : List (String × Value))
    (scene : Scene (EngineWorld σ)) :
    (EngineBuilder.create host arguments).perform scene =
      match ofArguments (host.files scene.world.inner.inner) arguments with
      | .error fault => (.error fault, scene)
      | .ok config =>
        let builder : EngineBuilder := { config := config }
        ((fun engine => (builder, engine)) <$> builder.build host).perform scene := by
  unfold EngineBuilder.create
  rw [Action.perform_bind_of_ok (Action.perform_world scene), Action.perform_bind,
    Action.perform_ofExcept]
  cases ofArguments (host.files scene.world.inner.inner) arguments with
  | error fault => rfl
  | ok config =>
      dsimp only
      rw [map_eq_pure_bind]

theorem Layers.Strays.ne_config {fault : Fault} (strays : layers.Strays fault)
    (cause : ConfigCause) : fault ≠ .config cause := by
  cases strays <;> exact nofun

/-- **A configuration is formed of its layers.**  It is refused exactly as the layers say, unless
the forming goes astray, which happens exactly as it is said.  Otherwise every setting has the value
of the highest layer that gives it; with a file alone the configuration is the one that is read from
it; and the engine is built from this configuration, or nothing is changed. -/
theorem layers_form (gives : Gives files arguments layers) :
    ((∃ cause, ofArguments files arguments = .error (.config cause)) ↔
        layers.Rejected ∧ ∀ fault, ¬ layers.Strays fault) ∧
      (∀ fault, (∀ cause, fault ≠ .config cause) →
        (ofArguments files arguments = .error fault ↔ layers.Strays fault)) ∧
      (¬ layers.Rejected → (∀ fault, ¬ layers.Strays fault) →
        ∃ config, ofArguments files arguments = .ok config ∧ layers.Settle config) ∧
      (layers.keywords = [] → layers.directory = none → ¬ layers.Nests →
        ∀ path, (argument arguments "config_path").toPath = .ok path →
          ofArguments files arguments = ofFile files path) ∧
      ∀ {σ : Type} (host : Host σ) (scene : Scene (EngineWorld σ)),
        host.files scene.world.inner.inner = files →
          (EngineBuilder.create host arguments).perform scene =
            match ofArguments files arguments with
            | .error fault => (.error fault, scene)
            | .ok config =>
              let builder : EngineBuilder := { config := config }
              ((fun engine => (builder, engine)) <$> builder.build host).perform scene := by
  refine ⟨⟨?_, ?_⟩, fun fault noCause => ⟨fun failed => ?_, gives.strays⟩,
    fun accepted straight => ?_, fun noKeywords noDirectory flat path asked => ?_, ?_⟩
  · rintro ⟨cause, refused⟩
    have straight (fault : Fault) (strays : layers.Strays fault) : False := by
      have same := (gives.strays strays).symm.trans refused
      exact strays.ne_config cause (Except.error.inj same)
    rcases gives.outcomes with ⟨rejected, _⟩ | ⟨fault, strays⟩ | ⟨_, config, formed, _⟩
    · exact ⟨rejected, straight⟩
    · exact (straight fault strays).elim
    · rw [formed] at refused
      cases refused
  · rintro ⟨rejected, straight⟩
    rcases gives.outcomes with ⟨_, refused⟩ | ⟨fault, strays⟩ | ⟨accepted, _⟩
    · exact refused
    · exact (straight fault strays).elim
    · exact (accepted rejected).elim
  · rcases gives.outcomes with ⟨_, cause, refused⟩ | ⟨other, strays⟩ | ⟨_, config, formed, _⟩
    · have same := refused.symm.trans failed
      exact (noCause cause (Except.error.inj same).symm).elim
    · have same := (gives.strays strays).symm.trans failed
      exact Except.error.inj same ▸ strays
    · rw [formed] at failed
      cases failed
  · rcases gives.outcomes with ⟨rejected, _⟩ | ⟨fault, strays⟩ | ⟨_, formed⟩
    · exact (accepted rejected).elim
    · exact (straight fault strays).elim
    · exact formed
  · rw [gives.ofArguments_of_bare noKeywords noDirectory flat, gives.file.ofFile_eq asked]
  · rintro σ host scene rfl
    exact create_eq host arguments scene

/-! ## Calls -/

/-- A working directory with a configuration file. -/
def configured (text : String) : ArchiveFiles :=
  ⟨[(FileSystem.workingPlace, .directory),
    (FileSystem.workingPlace ++ [.ofString "c.yaml"], .file text.toUTF8)]⟩

theorem yamlPath_asked : (Value.text "c.yaml").toPath = .ok (.ofText "c.yaml") := rfl

/-- A file with two settings. -/
def pairText : String := "tier: small\ntop_k: 4\n"

/-- A call that gives one of them and a directory. -/
def pairCall : List (String × Value) :=
  [("config_path", .text "c.yaml"), ("models_dir", .text "shelf"), ("top_k", .integer 1)]

theorem pairText_made : ∃ base, ofFile (configured pairText) (.ofText "c.yaml") = .ok base ∧
    (Value.sameKey base.tier (.text "small") &&
      !base.settings.any fun setting => setting.2.isRecursive) = true :=
  Outcome.exists_of_any (by decide +kernel)

/-- The directory is the argument's, the number of memories the keyword's, the tier the file's. -/
theorem pairCall_forms :
    ∃ config, ofArguments (configured pairText) pairCall = .ok config ∧
      config.modelsDir = .text "shelf" ∧ config.topK = .integer 1 ∧
      config.tier = .text "small" := by
  obtain ⟨base, read, passes⟩ := pairText_made
  obtain ⟨entries, reads, made⟩ := exists_reads yamlPath_asked read
  rw [Bool.and_eq_true, Bool.not_eq_true'] at passes
  have small : base.tier = .text "small" := (Value.sameKey_iff (by exact trivial) _).mp passes.1
  let layers : Layers := ⟨entries, [("top_k", .integer 1)], some (.text "shelf")⟩
  have gives : Gives (configured pairText) pairCall layers :=
    ⟨by decide, reads, rfl, .inr ⟨trivial, rfl⟩⟩
  have filed := gives.filed_of_made made
  have flat : ¬ layers.Nests := fun nests => by
    have found := (gives.nests_iff filed made).mpr nests
    rw [passes.2] at found
    cases found
  have fit := gives.fit_of_filed filed rfl
  have known : ∀ name ∈ ["top_k"], name ∈ names := by decide
  have accepted := layers.accepted filed known fit
  have straight : ∀ fault, ¬ layers.Strays fault := by
    rintro fault (⟨_, given, unfit, _⟩ | ⟨_, nests⟩ | ⟨_, _, _, unfit⟩)
    · exact filed (.providers given unfit)
    · exact flat nests
    · exact unfit fit
  obtain ⟨config, formed, settles⟩ := (layers_form gives).2.2.1 accepted straight
  refine ⟨config, formed, ?_, ?_, ?_⟩
  · exact settles.settings "models_dir" _ (by simp [settings]) (by decide)
  · exact settles.settings "top_k" _ (by simp [settings]) (by decide)
  · have kept : layers.value "tier" = base.tier :=
      Layers.value_of_made made (by simp [settings]) (by decide) rfl
    rw [← small, ← kept]
    exact settles.settings "tier" _ (by simp [settings]) (by decide)

/-- A file with a tier that holds itself. -/
def loopText : String := "tier: &a [*a]\n"

/-- A call that gives another tier. -/
def loopCall : List (String × Value) := [("config_path", .text "c.yaml"), ("tier", .text "small")]

theorem loopText_made : ∃ base, ofFile (configured loopText) (.ofText "c.yaml") = .ok base ∧
    (base.settings.any fun setting => setting.2.isRecursive) = true :=
  Outcome.exists_of_any (by decide +kernel)

/-- A keyword with a number of too many digits. -/
def hugeCall : List (String × Value) :=
  [("providers", .integer ((10 ^ Text.maxDigits : Nat) : Int))]

/-- Layers that are not to be refused fail, for a value that something is laid over; and layers that
are to be refused fail with another fault, for providers that cannot be quoted. -/
theorem loop_strays :
    (∃ layers, Gives (configured loopText) loopCall layers ∧ ¬ layers.Rejected ∧
        layers.value "tier" = .text "small" ∧
        ofArguments (configured loopText) loopCall =
          .error (.outside .endlessNesting "a value that holds itself")) ∧
      ∃ layers, Gives (configured "") hugeCall layers ∧ layers.Rejected ∧
        ofArguments (configured "") hugeCall = .error Value.unwritable := by
  constructor
  · obtain ⟨base, read, loops⟩ := loopText_made
    obtain ⟨entries, reads, made⟩ := exists_reads yamlPath_asked read
    let layers : Layers := ⟨entries, [("tier", .text "small")], none⟩
    have gives : Gives (configured loopText) loopCall layers :=
      ⟨by decide, reads, rfl, .inl ⟨rfl, rfl⟩⟩
    have filed := gives.filed_of_made made
    have known : ∀ name ∈ ["tier"], name ∈ names := by decide
    exact ⟨layers, gives, layers.accepted filed known (gives.fit_of_filed filed rfl), rfl,
      gives.strays (.nesting filed ((gives.nests_iff filed made).mp loops))⟩
  · let layers : Layers := ⟨[], hugeCall, none⟩
    have gives : Gives (configured "") hugeCall layers :=
      ⟨by decide, .absent, rfl, .inl ⟨rfl, rfl⟩⟩
    have made : ofEntries layers.file = .ok {} := rfl
    have unfit : ¬ IsNames (layers.value "providers") := nofun
    have unwritable : (layers.value "providers").isWritable = false := by
      change Value.isWritable (.integer ((10 ^ Text.maxDigits : Nat) : Int)) = false
      rw [Value.isWritable, Int.natAbs_natCast, decide_eq_false_iff_not]
      exact Nat.lt_irrefl _
    have flat : ¬ layers.Nests := by
      rintro ⟨name, value, found, _⟩
      cases found
    exact ⟨layers, gives, .providers unfit, gives.strays
      (.final (gives.filed_of_made made) flat (by decide) unfit unwritable)⟩

end RecallChat.ChatConfig
