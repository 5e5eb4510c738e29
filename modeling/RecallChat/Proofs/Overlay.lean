import RecallChat.Named
import RecallChat.Proofs.Chat.Sessions

/-!
# Entries laid over others

Entries are put into a map one after the other (`Value.overlay`).  Under a text the map then has what
the last layer has that knows it (`find?_overlay`), and its keys are those of both
(`mem_keys_overlay`).  Entries under names are found by their names (`find?_textual`).
-/

set_option autoImplicit false

namespace RecallChat.Value

variable {key other value : Value} {entries given base : List (Value × Value)}

/-! ## One entry -/

theorem find?_cons (key : Value) (entry : Value × Value) (rest : List (Value × Value)) :
    find? key (entry :: rest) = if sameKey entry.1 key then some entry.2 else find? key rest := by
  unfold find?
  rw [List.find?_cons]
  split <;> simp_all

/-- A text has no value exactly where it is no key. -/
theorem find?_eq_none_iff (string : key.IsString) :
    find? key entries = none ↔ key ∉ entries.map Prod.fst := by
  unfold find?
  rw [Option.map_eq_none_iff, List.find?_eq_none, List.mem_map]
  constructor
  · rintro apart ⟨entry, member, rfl⟩
    exact apart entry member (sameKey_self string)
  · intro absent entry member same
    exact absent ⟨entry, member, (sameKey_iff string _).mp same⟩

theorem mem_of_find? (string : key.IsString) (found : find? key entries = some value) :
    (key, value) ∈ entries := by
  obtain ⟨entry, at', rfl⟩ := Option.map_eq_some_iff.mp found
  have matched := List.find?_some at'
  have same : entry.1 = key := (sameKey_iff string _).mp matched
  exact same ▸ List.mem_of_find?_eq_some at'

theorem find?_insert_self (string : key.IsString) :
    find? key (insert key value entries) = some value := by
  induction entries with
  | nil => rw [insert, find?_cons, if_pos (sameKey_self string)]
  | cons entry rest ih =>
      rw [insert]
      by_cases same : sameKey entry.1 key = true
      · rw [if_pos same, find?_cons, if_pos same]
      · rw [if_neg same, find?_cons, if_neg same, ih]

theorem find?_insert_other (string : key.IsString) (string' : other.IsString) (ne : other ≠ key) :
    find? other (insert key value entries) = find? other entries := by
  induction entries with
  | nil =>
      have differs : ¬ sameKey key other = true :=
        fun same => ne ((sameKey_iff string' _).mp same).symm
      rw [insert, find?_cons, if_neg differs]
  | cons entry rest ih =>
      rw [insert]
      by_cases same : sameKey entry.1 key = true
      · have differs : ¬ sameKey entry.1 other = true := fun same' =>
          ne (((sameKey_iff string' _).mp same').symm.trans ((sameKey_iff string _).mp same))
        rw [if_pos same, find?_cons, find?_cons, if_neg differs, if_neg differs]
      · rw [if_neg same, find?_cons, find?_cons, ih]

theorem mem_keys_insert (string : key.IsString) :
    other ∈ (insert key value entries).map Prod.fst ↔
      other = key ∨ other ∈ entries.map Prod.fst := by
  induction entries with
  | nil => simp [insert]
  | cons entry rest ih =>
      rw [insert]
      by_cases same : sameKey entry.1 key = true
      · have own : entry.1 = key := (sameKey_iff string _).mp same
        rw [if_pos same, List.map_cons, List.map_cons, List.mem_cons, own, ← or_assoc, or_self]
      · rw [if_neg same, List.map_cons, List.map_cons, List.mem_cons, List.mem_cons, ih,
          or_left_comm]

/-- A new key comes after all others. -/
theorem insert_of_not_mem (string : key.IsString) (absent : key ∉ entries.map Prod.fst) :
    insert key value entries = entries ++ [(key, value)] := by
  induction entries with
  | nil => rfl
  | cons entry rest ih =>
      rw [List.map_cons, List.mem_cons, not_or] at absent
      have differs : ¬ sameKey entry.1 key = true := fun same =>
        absent.1 ((sameKey_iff string _).mp same).symm
      rw [insert, if_neg differs, ih absent.2]
      rfl

/-! ## Several entries -/

/-- Entries with others put into them one after the other. -/
def overlay (given base : List (Value × Value)) : List (Value × Value) :=
  given.foldl (fun entries entry => insert entry.1 entry.2 entries) base

/-- **The last layer that knows a text decides** what is under it. -/
theorem find?_overlay (strings : ∀ entry ∈ given, entry.1.IsString)
    (distinct : (given.map Prod.fst).Nodup) (string : key.IsString) :
    find? key (overlay given base) = (find? key given).or (find? key base) := by
  induction given generalizing base with
  | nil => rfl
  | cons entry rest ih =>
      obtain ⟨notLater, distinct'⟩ := List.nodup_cons.mp distinct
      have string' := strings entry List.mem_cons_self
      have later : find? key (overlay (entry :: rest) base) =
          (find? key rest).or (find? key (insert entry.1 entry.2 base)) :=
        ih (fun other member => strings other (List.mem_cons_of_mem entry member)) distinct'
      rw [later, find?_cons]
      by_cases same : sameKey entry.1 key = true
      · have own : entry.1 = key := (sameKey_iff string _).mp same
        subst own
        rw [if_pos same, (find?_eq_none_iff string).mpr notLater, find?_insert_self string]
        rfl
      · have ne : key ≠ entry.1 := fun equal => same (equal ▸ sameKey_self string)
        rw [if_neg same, find?_insert_other string' string ne]

theorem mem_keys_overlay (strings : ∀ entry ∈ given, entry.1.IsString) :
    key ∈ (overlay given base).map Prod.fst ↔
      key ∈ given.map Prod.fst ∨ key ∈ base.map Prod.fst := by
  induction given generalizing base with
  | nil => simp [overlay]
  | cons entry rest ih =>
      have later : key ∈ (overlay (entry :: rest) base).map Prod.fst ↔
          key ∈ rest.map Prod.fst ∨ key ∈ (insert entry.1 entry.2 base).map Prod.fst :=
        ih fun other member => strings other (List.mem_cons_of_mem entry member)
      rw [later, mem_keys_insert (strings entry List.mem_cons_self), List.map_cons, List.mem_cons,
        or_left_comm, or_assoc]

/-! ## Names as keys -/

/-- Entries under names as entries under texts. -/
def textual (settings : List (String × Value)) : List (Value × Value) :=
  settings.map fun (name, value) => (text name, value)

theorem find?_textual (settings : List (String × Value)) (name : String) :
    find? (text name) (textual settings) = named? settings name := by
  induction settings with
  | nil => rfl
  | cons setting rest ih =>
      have same : sameKey (text setting.1) (text name) = (setting.1 == name) := rfl
      rw [textual, List.map_cons, find?_cons, named?, List.find?_cons, same]
      cases setting.1 == name with
      | true => rfl
      | false => exact ih

theorem isString_of_mem_textual {settings : List (String × Value)} {entry : Value × Value}
    (member : entry ∈ textual settings) : entry.1.IsString := by
  obtain ⟨setting, _, rfl⟩ := List.mem_map.mp member
  exact trivial

theorem keys_textual (settings : List (String × Value)) :
    (textual settings).map Prod.fst = (settings.map Prod.fst).map text := by
  rw [textual, List.map_map, List.map_map]
  rfl

end RecallChat.Value
