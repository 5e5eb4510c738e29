import RecallChat.Proofs.Engine.ConfigFaults
import RecallChat.Proofs.Overlay

/-!
# The settings of a configuration

A configuration that is made of entries has their values for its settings, standard values where
they have none, and the providers that they list (`ChatConfig.settings_of_ofEntries`).  It is made
again of its own entries (`ChatConfig.ofEntries_toEntries`).
-/

set_option autoImplicit false

namespace RecallChat.ChatConfig

variable {entries : List (Value × Value)} {config : ChatConfig}

/-! ## Keys -/

theorem isKnown_iff {key : Value} : isKnown key = true ↔ ∃ name ∈ names, key = .text name := by
  cases key <;> simp [isKnown]

theorem unknownKeys_eq_nil_iff :
    unknownKeys entries = [] ↔ ∀ key ∈ entries.map Prod.fst, ∃ name ∈ names, key = .text name := by
  simp only [unknownKeys, List.filter_eq_nil_iff, Bool.not_eq_true', Bool.not_eq_false, isKnown_iff]

/-- Entries whose keys are texts are refused for an unknown key. -/
theorem refused_of_unknown (textual : ∀ key ∈ entries.map Prod.fst, key.IsString)
    (unknown : unknownKeys entries ≠ []) : ∃ cause, Unfit entries cause :=
  ⟨_, .unknown unknown fun key member => textual key (List.mem_of_mem_filter member)⟩

/-! ## Providers -/

/-- Providers are taken from exactly the lists of names. -/
theorem providerNames_eq_ok_iff {value : Value} {given : List String} :
    providerNames value = .ok given ↔
      ∃ items, (value = .list items ∨ value = .tuple items) ∧
        items.mapM Value.string? = some given := by
  constructor
  · intro read
    unfold providerNames at read
    dsimp only at read
    split at read
    · next names found =>
      cases read
      split at found
      · next items => exact ⟨items, .inl rfl, found⟩
      · next items => exact ⟨items, .inr rfl, found⟩
      · cases found
    · obtain ⟨_, _, refused⟩ := Outcome.bind_eq_ok.mp read
      cases refused
  · rintro ⟨items, rfl | rfl, found⟩
    · unfold providerNames
      dsimp only
      rw [found]
    · unfold providerNames
      dsimp only
      rw [found]

theorem providerNames_providersValue (config : ChatConfig) :
    providerNames config.providersValue = .ok config.providers := by
  have texts : ∀ given : List String, (given.map Value.text).mapM Value.string? = some given := by
    intro given
    induction given with
    | nil => rfl
    | cons name rest ih => rw [List.map_cons, List.mapM_cons, ih]; rfl
  exact providerNames_eq_ok_iff.mpr ⟨_, .inl rfl, texts config.providers⟩

theorem isNames_providersValue (config : ChatConfig) : IsNames config.providersValue :=
  .list fun item member => by
    obtain ⟨name, _, rfl⟩ := List.mem_map.mp member
    exact trivial

theorem givenProviders_of_find? {value : Value}
    (found : Value.find? (.text "providers") entries = some value) :
    givenProviders entries = value := by
  rw [givenProviders, found]
  rfl

theorem find?_of_not_isNames (unfit : ¬ IsNames (givenProviders entries)) :
    Value.find? (.text "providers") entries = some (givenProviders entries) := by
  cases found : Value.find? (.text "providers") entries with
  | none =>
      rw [givenProviders, found] at unfit
      exact absurd (isNames_providersValue {}) unfit
  | some value => rw [givenProviders_of_find? found]

theorem IsNames.flat {value : Value} (names : IsNames value) : value.isRecursive = false := by
  have flat : ∀ items : List Value, (∀ item ∈ items, item.IsString) →
      Value.anyRecursive items = false := by
    intro items strings
    induction items with
    | nil => rfl
    | cons item rest ih =>
        have string := strings item List.mem_cons_self
        rw [Value.anyRecursive,
          ih fun other later => strings other (List.mem_cons_of_mem item later)]
        cases item <;> first | rfl | exact string.elim
  cases names with
  | list strings => exact flat _ strings
  | tuple strings => exact flat _ strings

/-! ## Settings by name -/

/-- The value of a setting that is not given. -/
def standardValue (name : String) : Value := (named? (settings {}) name).getD .null

theorem mem_names_of_mem {setting : String × Value} (member : setting ∈ config.settings) :
    setting.1 ∈ names := by
  have keys : config.settings.map Prod.fst = names := rfl
  exact keys ▸ List.mem_map_of_mem member

theorem standardValue_of_mem {setting : String × Value} (member : setting ∈ settings {}) :
    standardValue setting.1 = setting.2 := by
  rw [standardValue, named?_of_nodup (by decide) member]
  rfl

theorem standardValue_flat {name : String} (known : name ∈ names) :
    (standardValue name).isRecursive = false := by
  obtain ⟨setting, member, rfl⟩ := List.mem_map.mp known
  have flat : ∀ setting ∈ settings {}, setting.2.isRecursive = false := by decide
  rw [standardValue_of_mem member]
  exact flat setting member

theorem exists_setting (config : ChatConfig) {name : String} (known : name ∈ names) :
    ∃ value, (name, value) ∈ config.settings ∧ named? config.settings name = some value := by
  have member : name ∈ config.settings.map Prod.fst := known
  obtain ⟨setting, at', rfl⟩ := List.mem_map.mp member
  have distinct : (config.settings.map Prod.fst).Nodup := by
    change names.Nodup
    decide
  exact ⟨setting.2, at', named?_of_nodup distinct at'⟩

/-- The settings of a configuration that is made of entries are their values and the providers. -/
theorem settings_of_ofEntries (made : ofEntries entries = .ok config) :
    providerNames (givenProviders entries) = .ok config.providers ∧
      ∀ setting ∈ config.settings, setting = ("providers", config.providersValue) ∨
        setting.1 ≠ "providers" ∧
          setting.2 = (Value.find? (.text setting.1) entries).getD (standardValue setting.1) := by
  unfold ofEntries at made
  obtain ⟨_, _, made⟩ := Outcome.bind_eq_ok.mp made
  obtain ⟨given, read, made⟩ := Outcome.bind_eq_ok.mp made
  cases made
  refine ⟨read, fun setting member => ?_⟩
  -- each setting stands in the place of the standard one of its name
  let remade (setting : String × Value) : String × Value :=
    (setting.1, if setting.1 = "providers" then .list (given.map Value.text)
      else (Value.find? (.text setting.1) entries).getD setting.2)
  obtain ⟨⟨name, fallback⟩, standard, rfl⟩ : ∃ other ∈ settings {}, remade other = setting :=
    List.mem_map.mp member
  dsimp only [remade]
  by_cases own : name = "providers"
  · rw [if_pos own, own]
    exact .inl rfl
  · rw [if_neg own, standardValue_of_mem standard]
    exact .inr ⟨own, rfl⟩

/-- Under the name of a setting there is its value among the entries, apart from the providers. -/
theorem named?_settings (made : ofEntries entries = .ok config) {name : String}
    (known : name ∈ names) (apart : name ≠ "providers") :
    named? config.settings name =
      some ((Value.find? (.text name) entries).getD (standardValue name)) := by
  obtain ⟨value, member, found⟩ := exists_setting config known
  rcases (settings_of_ofEntries made).2 _ member with own | ⟨_, same⟩
  · exact absurd (congrArg Prod.fst own) apart
  · rw [found]
    exact congrArg some same

/-- A configuration is made again of its own entries. -/
theorem ofEntries_toEntries (config : ChatConfig) : ofEntries config.toEntries = .ok config := by
  have known : unknownKeys config.toEntries = [] := rfl
  unfold ofEntries
  rw [checkKeys_of_known known]
  change (providerNames config.providersValue >>= fun names =>
    .ok { config with providers := names }) = _
  rw [providerNames_providersValue]
  rfl

end RecallChat.ChatConfig
