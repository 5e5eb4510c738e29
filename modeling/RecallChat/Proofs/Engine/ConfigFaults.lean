import RecallChat.ChatConfig
import RecallChat.Proofs.Chat.Sessions
import RecallChat.Proofs.Outcome
import RecallChat.Proofs.Walking

/-!
# How a configuration fails

The entries of a map make a configuration, or are refused (`ChatConfig.Unfit`), or upset the check
itself (`ChatConfig.Upsets`): it puts unknown keys in order and lists them, which it can do with
texts only, and it quotes the providers, which have to be writable for that.

The configuration in a file adds what reading and parsing add: causes of a refusal
(`ChatConfig.Refuses`), and faults that are no refusals (`ChatConfig.Escapes`).  The two list
all failures (`ChatConfig.reading_fails`).
-/

set_option autoImplicit false

namespace RecallChat

/-! ## Texts among values -/

namespace Value

theorem isString_iff {value : Value} : value.IsString ↔ ∃ text, value.string? = some text := by
  cases value <;> simp [IsString, string?]

theorem string?_of_not_isString {value : Value} (noString : ¬ value.IsString) :
    value.string? = none := by
  rw [isString_iff, not_exists] at noString
  exact Option.eq_none_iff_forall_ne_some.mpr noString

theorem exists_not_isString {values : List Value} (mixed : ¬ ∀ value ∈ values, value.IsString) :
    ∃ value ∈ values, ¬ value.IsString := by
  simpa only [not_forall, exists_prop] using mixed

theorem mapM_string?_of_isString {values : List Value}
    (strings : ∀ value ∈ values, value.IsString) :
    values.mapM string? = some (values.filterMap string?) := by
  induction values with
  | nil => rfl
  | cons value rest ih =>
      obtain ⟨text, shows⟩ := isString_iff.mp (strings value List.mem_cons_self)
      have others := ih fun other member => strings other (List.mem_cons_of_mem value member)
      simp [shows, others]

theorem mapM_string?_of_not_isString {value : Value} {values : List Value}
    (member : value ∈ values) (noString : ¬ value.IsString) : values.mapM string? = none := by
  induction values with
  | nil => cases member
  | cons first rest ih =>
      rcases List.mem_cons.mp member with rfl | later
      · simp [string?_of_not_isString noString]
      · simp [ih later]

end Value

namespace ChatConfig

/-- If every refusal and every escape happens, and nothing else but a result does, then the failures
are the refusals and the escapes. -/
theorem error_iff {α : Type} {outcome : Except Fault α} {refusal : ConfigCause → Prop}
    {escape : Fault → Prop} (refuses : ∀ {cause}, refusal cause → outcome = .error (.config cause))
    (escapes : ∀ {fault}, escape fault → outcome = .error fault)
    (cases : (∃ value, outcome = .ok value) ∨ (∃ cause, refusal cause) ∨ ∃ fault, escape fault)
    (fault : Fault) :
    outcome = .error fault ↔ (∃ cause, fault = .config cause ∧ refusal cause) ∨ escape fault := by
  constructor
  · intro failed
    rcases cases with ⟨value, made⟩ | ⟨cause, refused⟩ | ⟨other, escaped⟩
    · rw [made] at failed
      cases failed
    · rw [refuses refused] at failed
      cases failed
      exact .inl ⟨cause, rfl, refused⟩
    · rw [escapes escaped] at failed
      cases failed
      exact .inr escaped
  · rintro (⟨cause, rfl, refused⟩ | escaped)
    · exact refuses refused
    · exact escapes escaped

/-! ## Entries -/

section Entries

/-- The keys among entries that are no names of settings. -/
def unknownKeys (entries : List (Value × Value)) : List Value :=
  (entries.map Prod.fst).filter fun key => !isKnown key

/-- What entries give for the providers. -/
def givenProviders (entries : List (Value × Value)) : Value :=
  (Value.find? (.text "providers") entries).getD ({} : ChatConfig).providersValue

/-- A list of names. -/
inductive IsNames : Value → Prop
  | list {items : List Value} (strings : ∀ item ∈ items, item.IsString) : IsNames (.list items)
  | tuple {items : List Value} (strings : ∀ item ∈ items, item.IsString) : IsNames (.tuple items)

variable (entries : List (Value × Value))

/-- Why entries are refused. -/
inductive Unfit : ConfigCause → Prop
  | unknown (given : unknownKeys entries ≠ [])
      (strings : ∀ key ∈ unknownKeys entries, key.IsString) :
      Unfit (.unknownKeys
        (((unknownKeys entries).filterMap Value.string?).mergeSort fun a b => decide (a ≤ b)))
  | providers (known : unknownKeys entries = []) (unfit : ¬ IsNames (givenProviders entries))
      (writable : (givenProviders entries).isWritable = true) :
      Unfit (.providersNotNames (givenProviders entries).shown)

/-- The faults of checking entries that are no refusals. -/
inductive Upsets : Fault → Prop
  | key {key : Value} (given : key ∈ unknownKeys entries) (noString : ¬ key.IsString) :
      Upsets (.wrongType "a key that is no text")
  | providers (known : unknownKeys entries = []) (unfit : ¬ IsNames (givenProviders entries))
      (unwritable : (givenProviders entries).isWritable = false) :
      Upsets Value.unwritable

theorem checkKeys_eq :
    checkKeys entries =
      match (unknownKeys entries).mapM Value.string? with
      | none => .error (.wrongType "a key that is no text")
      | some [] => .ok ()
      | some names =>
        .error (.config (.unknownKeys (names.mergeSort fun a b => decide (a ≤ b)))) := rfl

variable {entries}

theorem checkKeys_of_known (known : unknownKeys entries = []) : checkKeys entries = .ok () := by
  rw [checkKeys_eq, known]
  rfl

theorem checkKeys_of_unknown (given : unknownKeys entries ≠ [])
    (strings : ∀ key ∈ unknownKeys entries, key.IsString) :
    checkKeys entries = .error (.config (.unknownKeys
      (((unknownKeys entries).filterMap Value.string?).mergeSort fun a b => decide (a ≤ b)))) := by
  rw [checkKeys_eq, Value.mapM_string?_of_isString strings]
  -- the first key has a text, so the list of texts is not the empty one
  obtain ⟨key, rest, keys⟩ := List.exists_cons_of_ne_nil given
  obtain ⟨text, shows⟩ := Value.isString_iff.mp (strings key (keys ▸ List.mem_cons_self))
  rw [keys, List.filterMap_cons_some shows]

theorem checkKeys_of_not_isString {key : Value} (given : key ∈ unknownKeys entries)
    (noString : ¬ key.IsString) :
    checkKeys entries = .error (.wrongType "a key that is no text") := by
  rw [checkKeys_eq, Value.mapM_string?_of_not_isString given noString]

theorem providerNames_of_isNames {value : Value} (names : IsNames value) :
    ∃ given, providerNames value = .ok given := by
  cases names with
  | @list items strings =>
      exact ⟨items.filterMap Value.string?,
        by simp [providerNames, Value.mapM_string?_of_isString strings]⟩
  | @tuple items strings =>
      exact ⟨items.filterMap Value.string?,
        by simp [providerNames, Value.mapM_string?_of_isString strings]⟩

theorem providerNames_of_not_isNames {value : Value} (unfit : ¬ IsNames value) :
    providerNames value =
      value.inQuotes.bind fun shown => .error (.config (.providersNotNames shown)) := by
  cases value with
  | list items =>
      obtain ⟨item, member, noString⟩ :=
        Value.exists_not_isString fun strings => unfit (.list strings)
      simp [providerNames, Value.mapM_string?_of_not_isString member noString]
  | tuple items =>
      obtain ⟨item, member, noString⟩ :=
        Value.exists_not_isString fun strings => unfit (.tuple strings)
      simp [providerNames, Value.mapM_string?_of_not_isString member noString]
  | _ => rfl

/-- Entries with known keys make a configuration when the providers are names. -/
theorem ofEntries_of_providerNames (known : unknownKeys entries = []) {given : List String}
    (names : providerNames (givenProviders entries) = .ok given) :
    ∃ config, ofEntries entries = .ok config := by
  unfold ofEntries
  rw [checkKeys_of_known known]
  change ∃ config, (providerNames (givenProviders entries) >>= fun names => _) = .ok config
  rw [names]
  exact ⟨_, rfl⟩

theorem ofEntries_of_providerNames_error (known : unknownKeys entries = []) {fault : Fault}
    (failed : providerNames (givenProviders entries) = .error fault) :
    ofEntries entries = .error fault := by
  unfold ofEntries
  rw [checkKeys_of_known known]
  change (providerNames (givenProviders entries) >>= fun names => _) = _
  rw [failed]
  rfl

theorem ofEntries_of_checkKeys {fault : Fault} (failed : checkKeys entries = .error fault) :
    ofEntries entries = .error fault := by
  unfold ofEntries
  rw [failed]
  rfl

theorem Unfit.fails {cause : ConfigCause} (unfit : Unfit entries cause) :
    ofEntries entries = .error (.config cause) := by
  cases unfit with
  | unknown given strings => exact ofEntries_of_checkKeys (checkKeys_of_unknown given strings)
  | providers known unfit writable =>
      refine ofEntries_of_providerNames_error known ?_
      rw [providerNames_of_not_isNames unfit, Value.inQuotes_of_isWritable writable]
      rfl

theorem Upsets.fails {fault : Fault} (upsets : Upsets entries fault) :
    ofEntries entries = .error fault := by
  cases upsets with
  | key given noString => exact ofEntries_of_checkKeys (checkKeys_of_not_isString given noString)
  | providers known unfit unwritable =>
      refine ofEntries_of_providerNames_error known ?_
      rw [providerNames_of_not_isNames unfit, Value.inQuotes_of_not_isWritable unwritable]
      rfl

variable (entries)

theorem ofEntries_cases :
    (∃ config, ofEntries entries = .ok config) ∨ (∃ cause, Unfit entries cause) ∨
      ∃ fault, Upsets entries fault := by
  by_cases known : unknownKeys entries = []
  · by_cases names : IsNames (givenProviders entries)
    · obtain ⟨given, read⟩ := providerNames_of_isNames names
      exact .inl (ofEntries_of_providerNames known read)
    · cases writable : (givenProviders entries).isWritable with
      | true => exact .inr (.inl ⟨_, .providers known names writable⟩)
      | false => exact .inr (.inr ⟨_, .providers known names writable⟩)
  · by_cases strings : ∀ key ∈ unknownKeys entries, key.IsString
    · exact .inr (.inl ⟨_, .unknown known strings⟩)
    · obtain ⟨key, given, noString⟩ := Value.exists_not_isString strings
      exact .inr (.inr ⟨_, .key given noString⟩)

variable {entries}

/-- Entries with an unknown key fail, and with a refusal when all unknown keys are texts. -/
theorem ofEntries_of_unknown {key : Value} (given : key ∈ unknownKeys entries) :
    ∃ fault, ofEntries entries = .error fault ∧
      ((∃ cause, fault = .config cause) ↔ ∀ key ∈ unknownKeys entries, key.IsString) := by
  by_cases strings : ∀ key ∈ unknownKeys entries, key.IsString
  · have unfit := Unfit.unknown (List.ne_nil_of_mem given) strings
    exact ⟨_, unfit.fails, iff_of_true ⟨_, rfl⟩ strings⟩
  · obtain ⟨other, unknown, noString⟩ := Value.exists_not_isString strings
    exact ⟨_, (Upsets.key unknown noString).fails, iff_of_false nofun strings⟩

end Entries

/-! ## Files -/

section Files

variable {δ : Type} (files : FileSystem δ) (path : Path)

/-- Why a file is refused. -/
inductive Refuses : ConfigCause → Prop
  | unreadable {trouble : FileTrouble} (refused : files.readBytes path = .error trouble)
      (named : ¬ path.Unnamed trouble) :
      Refuses (.unreadable path.text (trouble.fault path.points).text)
  | malformed {text : String} (reads : files.readText path = .ok text)
      (malformed : Yaml.read text = .error .malformed) : Refuses (.malformed path.text)
  | notMapping {text : String} {value : Value} (reads : files.readText path = .ok text)
      (describes : Yaml.read text = .ok value) (given : value ≠ .null)
      (noMap : ∀ entries, value ≠ .map entries) :
      Refuses (.notMapping path.text value.kindName)
  | entries {text : String} {entries : List (Value × Value)} {cause : ConfigCause}
      (reads : files.readText path = .ok text) (describes : Yaml.read text = .ok (.map entries))
      (unfit : Unfit entries cause) : Refuses cause

/-- The faults of reading a file that are no refusals. -/
inductive Escapes : Fault → Prop
  | path {trouble : FileTrouble} (unnamed : path.Unnamed trouble) :
      Escapes (trouble.fault path.points)
  | bytes {bytes : ByteArray} (reads : files.readBytes path = .ok bytes)
      (noText : String.fromUTF8? bytes = none) : Escapes (.outside .undecodable "invalid bytes")
  | document {text : String} {fault : Fault} (reads : files.readText path = .ok text)
      (raises : Yaml.read text = .error (.fault fault)) : Escapes fault
  | entries {text : String} {entries : List (Value × Value)} {fault : Fault}
      (reads : files.readText path = .ok text) (describes : Yaml.read text = .ok (.map entries))
      (upsets : Upsets entries fault) : Escapes fault

variable {files path}

theorem ofFile_of_reads {text : String} (reads : files.readText path = .ok text) :
    ofFile files path = readDocument path text >>= ofDocument path := by
  unfold ofFile
  rw [reads]

theorem Refuses.fails {cause : ConfigCause} (refuses : Refuses files path cause) :
    ofFile files path = .error (.config cause) := by
  cases refuses with
  | @unreadable trouble refused named =>
      unfold ofFile FileSystem.readText FileSystem.readExact
      rw [refused]
      cases trouble with
      | nulInName => exact absurd (FileSystem.unnamed_of_readBytes refused (.inr rfl)) named
      | unnameable => exact absurd (FileSystem.unnamed_of_readBytes refused (.inl rfl)) named
      | _ => rfl
  | malformed reads malformed =>
      rw [ofFile_of_reads reads, readDocument, malformed]
      rfl
  | @notMapping text value reads describes given noMap =>
      rw [ofFile_of_reads reads, readDocument, describes]
      cases value with
      | null => exact absurd rfl given
      | map entries => exact absurd rfl (noMap entries)
      | _ => rfl
  | entries reads describes unfit =>
      rw [ofFile_of_reads reads, readDocument, describes]
      exact unfit.fails

theorem Escapes.fails {fault : Fault} (escapes : Escapes files path fault) :
    ofFile files path = .error fault := by
  cases escapes with
  | path unnamed =>
      unfold ofFile FileSystem.readText FileSystem.readExact
      rw [FileSystem.readBytes_of_unnamed unnamed]
      cases unnamed <;> rfl
  | bytes reads noText =>
      unfold ofFile FileSystem.readText FileSystem.readExact
      rw [reads]
      dsimp only
      rw [noText]
      rfl
  | document reads raises =>
      rw [ofFile_of_reads reads, readDocument, raises]
      rfl
  | entries reads describes upsets =>
      rw [ofFile_of_reads reads, readDocument, describes]
      exact upsets.fails

variable (files path)

/-- A text that was read is refused, or escapes, or makes a configuration. -/
theorem ofFile_cases_of_reads {text : String} (reads : files.readText path = .ok text) :
    (∃ config, ofFile files path = .ok config) ∨ (∃ cause, Refuses files path cause) ∨
      ∃ fault, Escapes files path fault := by
  cases described : Yaml.read text with
  | error trouble =>
      cases trouble with
      | malformed => exact .inr (.inl ⟨_, .malformed reads described⟩)
      | fault fault => exact .inr (.inr ⟨_, .document reads described⟩)
  | ok value =>
      have made : ofFile files path = ofDocument path value := by
        rw [ofFile_of_reads reads, readDocument, described]
        rfl
      cases value with
      | null => exact .inl ⟨_, made⟩
      | map entries =>
          rcases ofEntries_cases entries with ⟨config, fits⟩ | ⟨cause, unfit⟩ | ⟨fault, upsets⟩
          · exact .inl ⟨config, made.trans fits⟩
          · exact .inr (.inl ⟨cause, .entries reads described unfit⟩)
          · exact .inr (.inr ⟨fault, .entries reads described upsets⟩)
      | _ => exact .inr (.inl ⟨_, .notMapping reads described nofun nofun⟩)

theorem ofFile_cases :
    (∃ config, ofFile files path = .ok config) ∨ (∃ cause, Refuses files path cause) ∨
      ∃ fault, Escapes files path fault := by
  cases read : files.readBytes path with
  | error trouble =>
      by_cases unnamed : path.Unnamed trouble
      · exact .inr (.inr ⟨_, .path unnamed⟩)
      · exact .inr (.inl ⟨_, .unreadable read unnamed⟩)
  | ok bytes =>
      cases decoded : String.fromUTF8? bytes with
      | none => exact .inr (.inr ⟨_, .bytes read decoded⟩)
      | some exactly =>
          obtain ⟨text, reads⟩ : ∃ text, files.readText path = .ok text := by
            unfold FileSystem.readText FileSystem.readExact
            rw [read]
            dsimp only
            rw [decoded]
            exact ⟨_, rfl⟩
          exact ofFile_cases_of_reads files path reads

/-- **The failures of reading a configuration**, from a file and from the entries of a map, are the
refusals with their causes and the faults that escape.  Entries with an unknown key always fail, and
with a refusal just when all their unknown keys are texts. -/
theorem reading_fails (entries : List (Value × Value)) (fault : Fault) :
    (ofFile files path = .error fault ↔
      (∃ cause, fault = .config cause ∧ Refuses files path cause) ∨ Escapes files path fault) ∧
    (ofEntries entries = .error fault ↔
      (∃ cause, fault = .config cause ∧ Unfit entries cause) ∨ Upsets entries fault) ∧
    ∀ key ∈ unknownKeys entries, ∃ fault, ofEntries entries = .error fault ∧
      ((∃ cause, fault = .config cause) ↔ ∀ key ∈ unknownKeys entries, key.IsString) :=
  ⟨error_iff Refuses.fails Escapes.fails (ofFile_cases files path) fault,
    error_iff Unfit.fails Upsets.fails (ofEntries_cases entries) fault,
    fun _ given => ofEntries_of_unknown given⟩

/-- A key that is a number fails without a refusal, and so does a file whose bytes are no text. -/
theorem numeral_key_escapes :
    ofEntries [(.integer 1, .integer 2)] = .error (.wrongType "a key that is no text") ∧
    ofFile (⟨[(FileSystem.workingPlace, .directory),
        (FileSystem.workingPlace ++ [.ofString "c.yaml"], .file ⟨#[0xff]⟩)]⟩ : FileSystem Unit)
        (Path.ofText "c.yaml") =
      .error (.outside .undecodable "invalid bytes") := by
  constructor
  · rfl
  · rfl

end Files

end ChatConfig

end RecallChat
