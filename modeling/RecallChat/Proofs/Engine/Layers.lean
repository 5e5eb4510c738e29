import RecallChat.Engine
import RecallChat.Proofs.Engine.Settings
import RecallChat.Proofs.Yaml.Entries

/-!
# Layers of a configuration

A call for an engine gives a configuration in layers: the entries of a file, keywords over them, and
a directory of models over both (`ChatConfig.Layers`, `ChatConfig.Gives`).  What the layers give for a
setting is the value of the highest one that knows it (`Layers.value`).  They are refused for what is
wrong in the file alone, or in what the layers come to (`Layers.Rejected`).

The layers are laid over each other by way of entries: the file makes a configuration, the others are
put over its settings (`Layers.merged`), and a second configuration is made of all of these.
-/

set_option autoImplicit false

namespace RecallChat.ChatConfig

variable {entries : List (Value × Value)}

/-! ## What a call gives -/

/-- What the argument for a file gives: nothing without a file or in an empty one, or the entries of
a mapping whose keys are texts. -/
inductive Reads (files : ArchiveFiles) : Value → List (Value × Value) → Prop
  | absent : Reads files .null []
  | empty {argument : Value} {path : Path} {text : String} (asked : argument.toPath = .ok path)
      (reads : files.readText path = .ok text) (describes : Yaml.read text = .ok .null) :
      Reads files argument []
  | mapping {argument : Value} {path : Path} {text : String} {entries : List (Value × Value)}
      (asked : argument.toPath = .ok path) (reads : files.readText path = .ok text)
      (describes : Yaml.read text = .ok (.map entries))
      (textual : ∀ entry ∈ entries, entry.1.IsString) : Reads files argument entries

/-- The layers of a call: the entries of its file, its keywords, and a directory of models. -/
structure Layers where
  file : List (Value × Value)
  keywords : List (String × Value)
  directory : Option Value

/-- That the arguments of a call give layers.  No argument is given twice. -/
structure Gives (files : ArchiveFiles) (arguments : List (String × Value)) (layers : Layers) :
    Prop where
  distinct : (arguments.map Prod.fst).Nodup
  file : Reads files (argument arguments "config_path") layers.file
  keywords : layers.keywords =
    arguments.filter fun argument => !namedArguments.contains argument.1
  directory : argument arguments "models_dir" = .null ∧ layers.directory = none ∨
    (argument arguments "models_dir").IsString ∧
      layers.directory = some (argument arguments "models_dir")

namespace Layers

variable (layers : Layers)

/-- What the layers above the file give for a setting. -/
def above? (name : String) : Option Value :=
  (if name = "models_dir" then layers.directory else none).or (named? layers.keywords name)

/-- What the layers give for a setting: the directory for its own, a keyword, what the file has, or
the standard value, whichever comes first. -/
def value (name : String) : Value :=
  ((layers.above? name).or (Value.find? (.text name) layers.file)).getD (standardValue name)

/-- Why the entries of a file are refused, whatever is laid over them. -/
inductive Misfiled (file : List (Value × Value)) : Prop
  | key {key : Value} (given : key ∈ file.map Prod.fst) (unknown : ∀ name ∈ names, key ≠ .text name)
  | providers {value : Value} (given : Value.find? (.text "providers") file = some value)
      (unfit : ∀ items, value = .list items → ∃ item ∈ items, ¬ item.IsString)

/-- Why layers are refused. -/
inductive Rejected : Prop
  | file (misfiled : Misfiled layers.file)
  | keyword {name : String} (given : name ∈ layers.keywords.map Prod.fst) (unknown : name ∉ names)
  | providers (unfit : ¬ IsNames (layers.value "providers"))

/-- That a value of the file holds itself. -/
def Nests : Prop :=
  ∃ name value, Value.find? (.text name) layers.file = some value ∧ value.isRecursive = true

/-- How the forming of a configuration strays, whether the layers are to be refused or not: providers
that are refused cannot be quoted, or a value of the file cannot be taken apart. -/
inductive Strays : Fault → Prop
  | filed {value : Value} (known : ∀ key ∈ layers.file.map Prod.fst, ∃ name ∈ names, key = .text name)
      (given : Value.find? (.text "providers") layers.file = some value)
      (unfit : ∀ items, value = .list items → ∃ item ∈ items, ¬ item.IsString)
      (unwritable : value.isWritable = false) : Strays Value.unwritable
  | nesting (filed : ¬ Misfiled layers.file) (nests : layers.Nests) :
      Strays (.outside .endlessNesting "a value that holds itself")
  | final (filed : ¬ Misfiled layers.file) (flat : ¬ layers.Nests)
      (known : ∀ name ∈ layers.keywords.map Prod.fst, name ∈ names)
      (unfit : ¬ IsNames (layers.value "providers"))
      (unwritable : (layers.value "providers").isWritable = false) : Strays Value.unwritable

/-- That a configuration is what layers give: every setting has its value, and the providers are
listed by their names. -/
structure Settle (config : ChatConfig) : Prop where
  settings : ∀ name value, (name, value) ∈ config.settings → name ≠ "providers" →
    value = layers.value name
  providers : ∃ items, (layers.value "providers" = .list items ∨
    layers.value "providers" = .tuple items) ∧ items.mapM Value.string? = some config.providers

end Layers

variable {files : ArchiveFiles} {arguments : List (String × Value)} {layers : Layers}
  {base : ChatConfig}

/-! ## The file -/

theorem Reads.textual {argument : Value} (reads : Reads files argument entries) :
    ∀ entry ∈ entries, entry.1.IsString := by
  cases reads with
  | absent => exact nofun
  | empty => exact nofun
  | mapping _ _ _ textual => exact textual

/-- Without a file there are no entries. -/
theorem Reads.null_or_path {argument : Value} (reads : Reads files argument entries) :
    argument = .null ∧ entries = [] ∨ ∃ path, argument.toPath = .ok path := by
  cases reads with
  | absent => exact .inl ⟨rfl, rfl⟩
  | empty asked => exact .inr ⟨_, asked⟩
  | mapping asked => exact .inr ⟨_, asked⟩

theorem Reads.noTuple {argument value : Value} {name : String}
    (reads : Reads files argument entries) (found : Value.find? (.text name) entries = some value)
    (items : List Value) : value ≠ .tuple items := by
  cases reads with
  | absent => cases found
  | empty => cases found
  | mapping _ _ describes _ =>
      have string : (Value.text name).IsString := trivial
      exact (Yaml.read_untupled describes).entries _ rfl _ (Value.mem_of_find? string found) items

/-- Providers of a file that are no names are no list of texts. -/
theorem Reads.isNames_iff {argument value : Value} (reads : Reads files argument entries)
    (found : Value.find? (.text "providers") entries = some value) :
    ¬ IsNames value ↔ ∀ items, value = .list items → ∃ item ∈ items, ¬ item.IsString := by
  constructor
  · rintro unfit items rfl
    exact Value.exists_not_isString fun strings => unfit (.list strings)
  · rintro unfit names
    cases names with
    | @list items strings =>
        obtain ⟨item, member, noString⟩ := unfit items rfl
        exact noString (strings item member)
    | tuple strings => exact reads.noTuple found _ rfl

/-- The entries of a file are refused when they have unknown keys or providers that are no names. -/
theorem Reads.misfiled_iff {argument : Value} (reads : Reads files argument entries) :
    Layers.Misfiled entries ↔ ¬ (unknownKeys entries = [] ∧ IsNames (givenProviders entries)) := by
  constructor
  · rintro misfiled ⟨known, names⟩
    cases misfiled with
    | key given unknown =>
        obtain ⟨name, member, same⟩ := unknownKeys_eq_nil_iff.mp known _ given
        exact unknown name member same
    | providers given unfit =>
        rw [givenProviders_of_find? given] at names
        exact (reads.isNames_iff given).mpr unfit names
  · intro unfit
    rw [not_and_or] at unfit
    rcases unfit with unknown | noNames
    · rw [unknownKeys_eq_nil_iff] at unknown
      push Not at unknown
      obtain ⟨key, given, unknown⟩ := unknown
      exact .key given unknown
    · have given := find?_of_not_isNames noNames
      exact .providers given ((reads.isNames_iff given).mp noNames)

theorem Reads.ofFile_eq {argument : Value} {path : Path} (reads : Reads files argument entries)
    (asked : argument.toPath = .ok path) : ofFile files path = ofEntries entries := by
  cases reads with
  | absent => cases asked
  | empty asked' reads describes =>
      cases asked.symm.trans asked'
      rw [ofFile_of_reads reads, readDocument, describes]
      rfl
  | mapping asked' reads describes _ =>
      cases asked.symm.trans asked'
      rw [ofFile_of_reads reads, readDocument, describes]
      rfl

/-- A file that makes a configuration gives the entries of which that is made. -/
theorem exists_reads {argument : Value} {path : Path} (asked : argument.toPath = .ok path)
    (made : ofFile files path = .ok base) :
    ∃ entries, Reads files argument entries ∧ ofEntries entries = .ok base := by
  cases reads : files.readText path with
  | error fault =>
      unfold ofFile at made
      rw [reads] at made
      cases made
  | ok text =>
      rw [ofFile_of_reads reads] at made
      obtain ⟨value, document, made⟩ := Outcome.bind_eq_ok.mp made
      have describes : Yaml.read text = .ok value := by
        unfold readDocument at document
        split at document <;> cases document
        assumption
      cases value with
      | null => exact ⟨[], .empty asked reads describes, made⟩
      | map entries =>
          refine ⟨entries, .mapping asked reads describes fun entry member => ?_, made⟩
          have known : unknownKeys entries = [] := by
            by_contra given
            obtain ⟨key, unknown⟩ := List.exists_mem_of_ne_nil _ given
            obtain ⟨fault, failed, _⟩ := ofEntries_of_unknown unknown
            have none := made.symm.trans failed
            cases none
          obtain ⟨name, _, same⟩ :=
            unknownKeys_eq_nil_iff.mp known entry.1 (List.mem_map_of_mem member)
          rw [same]
          exact trivial
      | _ => cases made

/-! ## The layers above the file -/

/-- The settings of a configuration with the upper layers laid over them. -/
def Layers.merged (layers : Layers) (base : ChatConfig) : List (Value × Value) :=
  let laid := Value.overlay (Value.textual layers.keywords) base.toEntries
  match layers.directory with
  | some path => Value.insert (.text "models_dir") path laid
  | none => laid

theorem Gives.nodup (gives : Gives files arguments layers) :
    (layers.keywords.map Prod.fst).Nodup := by
  rw [gives.keywords]
  exact gives.distinct.sublist (List.filter_sublist.map _)

theorem Gives.not_mem (gives : Gives files arguments layers) {name : String}
    (given : name ∈ namedArguments) : name ∉ layers.keywords.map Prod.fst := by
  rw [gives.keywords]
  intro member
  obtain ⟨argument, kept, rfl⟩ := List.mem_map.mp member
  have apart := (List.mem_filter.mp kept).2
  rw [List.contains_iff_mem.mpr given] at apart
  cases apart

theorem Gives.override_eq (gives : Gives files arguments layers) :
    base.override (Value.textual layers.keywords) layers.directory =
      ofEntries (layers.merged base) := by
  unfold override Layers.merged
  cases layers.directory with
  | none => rfl
  | some path =>
      have absent : Value.text "models_dir" ∉ (Value.textual layers.keywords).map Prod.fst := by
        rw [Value.keys_textual, List.mem_map]
        rintro ⟨name, member, same⟩
        cases same
        exact gives.not_mem (by decide) member
      dsimp only
      rw [Value.insert_of_not_mem (by exact trivial) absent, List.foldl_append]
      rfl

theorem Gives.find?_merged (gives : Gives files arguments layers) (name : String) :
    Value.find? (.text name) (layers.merged base) =
      (layers.above? name).or (named? base.settings name) := by
  have laid : Value.find? (.text name)
      (Value.overlay (Value.textual layers.keywords) base.toEntries) =
        (named? layers.keywords name).or (named? base.settings name) := by
    have distinct : ((Value.textual layers.keywords).map Prod.fst).Nodup := by
      rw [Value.keys_textual]
      exact gives.nodup.map fun _ _ same => Value.text.inj same
    rw [Value.find?_overlay (fun _ => Value.isString_of_mem_textual) distinct (by exact trivial),
      Value.find?_textual]
    exact congrArg _ (Value.find?_textual base.settings name)
  unfold Layers.merged Layers.above?
  cases layers.directory with
  | none =>
      dsimp only
      rw [laid, ite_self]
      rfl
  | some path =>
      dsimp only
      by_cases own : name = "models_dir"
      · subst own
        rw [Value.find?_insert_self (by exact trivial), if_pos rfl]
        rfl
      · have apart : Value.text name ≠ .text "models_dir" := fun same => own (Value.text.inj same)
        rw [Value.find?_insert_other (by exact trivial) (by exact trivial) apart, laid, if_neg own]
        rfl

theorem Layers.mem_keys_merged {key : Value} :
    key ∈ (layers.merged base).map Prod.fst ↔
      key ∈ (layers.keywords.map Prod.fst).map Value.text ∨ key ∈ names.map Value.text := by
  have laid : key ∈ (Value.overlay (Value.textual layers.keywords) base.toEntries).map Prod.fst ↔
      key ∈ (layers.keywords.map Prod.fst).map Value.text ∨ key ∈ names.map Value.text := by
    have inner : base.toEntries.map Prod.fst = names.map Value.text := rfl
    rw [Value.mem_keys_overlay fun _ => Value.isString_of_mem_textual, Value.keys_textual, inner]
  unfold Layers.merged
  cases layers.directory with
  | none => exact laid
  | some path =>
      dsimp only
      rw [Value.mem_keys_insert (by exact trivial), laid, or_iff_right_iff_imp]
      rintro rfl
      exact .inr (List.mem_map_of_mem (by decide))

theorem Layers.isString_of_mem_merged {key : Value}
    (member : key ∈ (layers.merged base).map Prod.fst) : key.IsString := by
  rcases Layers.mem_keys_merged.mp member with keyword | setting
  · obtain ⟨name, _, rfl⟩ := List.mem_map.mp keyword
    exact trivial
  · obtain ⟨name, _, rfl⟩ := List.mem_map.mp setting
    exact trivial

theorem Layers.unknownKeys_merged :
    unknownKeys (layers.merged base) = [] ↔
      ∀ name ∈ layers.keywords.map Prod.fst, name ∈ names := by
  rw [unknownKeys_eq_nil_iff]
  constructor
  · intro known name member
    have keyword : Value.text name ∈ (layers.merged base).map Prod.fst :=
      Layers.mem_keys_merged.mpr (.inl (List.mem_map_of_mem member))
    obtain ⟨other, setting, same⟩ := known _ keyword
    exact Value.text.inj same ▸ setting
  · intro known key member
    rcases Layers.mem_keys_merged.mp member with keyword | setting
    · obtain ⟨name, given, rfl⟩ := List.mem_map.mp keyword
      exact ⟨name, known name given, rfl⟩
    · obtain ⟨name, given, rfl⟩ := List.mem_map.mp setting
      exact ⟨name, given, rfl⟩

/-- Laying layers over a file's configuration gives them their own values. -/
theorem Gives.getD_merged (gives : Gives files arguments layers)
    (made : ofEntries layers.file = .ok base) {name : String} (known : name ∈ names)
    (apart : name ≠ "providers") :
    (Value.find? (.text name) (layers.merged base)).getD (standardValue name) =
      layers.value name := by
  rw [gives.find?_merged, named?_settings made known apart, Layers.value]
  cases layers.above? name with
  | some value => rfl
  | none => cases Value.find? (.text name) layers.file <;> rfl

/-- Where nothing is above it, a setting of the file's configuration is what the layers give. -/
theorem Layers.value_of_made (made : ofEntries layers.file = .ok base) {name : String}
    {value : Value} (member : (name, value) ∈ base.settings) (apart : name ≠ "providers")
    (bare : layers.above? name = none) : layers.value name = value := by
  rcases (settings_of_ofEntries made).2 _ member with own | ⟨_, same⟩
  · exact absurd (congrArg Prod.fst own) apart
  · rw [Layers.value, bare]
    exact same.symm

/-- Laying layers over a file's configuration gives the providers of the highest one. -/
theorem Gives.providerNames_merged (gives : Gives files arguments layers)
    (made : ofEntries layers.file = .ok base) :
    providerNames (givenProviders (layers.merged base)) =
      providerNames (layers.value "providers") := by
  have inner : named? base.settings "providers" = some base.providersValue := rfl
  rw [givenProviders, gives.find?_merged, inner, Layers.value]
  cases layers.above? "providers" with
  | some value => rfl
  | none =>
      -- the file's providers are written back as they were read
      have filed := (settings_of_ofEntries made).1
      exact (providerNames_providersValue base).trans filed.symm

end RecallChat.ChatConfig
