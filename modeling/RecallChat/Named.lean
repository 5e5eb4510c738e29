/-!
# Entries under names

Lists of entries with names, in which an entry keeps its place when its value is set again.
-/

namespace RecallChat

set_option autoImplicit false

/-- Entries with one name set: in its old place, or at the end when it is new. -/
def setNamed {α : Type} (entries : List (String × α)) (name : String) (value : α) :
    List (String × α) :=
  if entries.any fun entry => entry.1 == name then
    entries.map fun entry => if entry.1 == name then (name, value) else entry
  else entries ++ [(name, value)]

/-- Entries without repeated names; the last value of a name stands in its first place. -/
def distinctNames {α : Type} (entries : List (String × α)) : List (String × α) :=
  entries.foldl (fun kept entry => setNamed kept entry.1 entry.2) []

/-- The value of a name. -/
def named? {α : Type} (entries : List (String × α)) (name : String) : Option α :=
  (entries.find? fun entry => entry.1 == name).map Prod.snd

/-! ## Finding entries -/

theorem find?_of_mem {α : Type} {entries : List (String × α)} {name : String}
    (member : name ∈ entries.map Prod.fst) :
    ∃ entry, (entries.find? fun other => other.1 == name) = some entry := by
  obtain ⟨entry, at', rfl⟩ := List.mem_map.mp member
  exact Option.isSome_iff_exists.mp
    (List.find?_isSome.mpr ⟨entry, at', beq_self_eq_true entry.1⟩)

/-- A name in a list of entries has a value there. -/
theorem named?_of_mem {α : Type} {entries : List (String × α)} {name : String}
    (member : name ∈ entries.map Prod.fst) : ∃ value, named? entries name = some value := by
  obtain ⟨entry, found⟩ := find?_of_mem member
  exact ⟨entry.2, by rw [named?, found]; rfl⟩

/-- Where no name occurs twice, every entry is found. -/
theorem named?_of_nodup {α : Type} {entries : List (String × α)} {entry : String × α}
    (distinct : (entries.map Prod.fst).Nodup) (member : entry ∈ entries) :
    named? entries entry.1 = some entry.2 := by
  induction entries with
  | nil => cases member
  | cons first rest ih =>
      obtain ⟨notLater, distinct'⟩ := List.nodup_cons.mp distinct
      rw [named?, List.find?_cons]
      rcases List.mem_cons.mp member with rfl | later
      · rw [beq_self_eq_true]
        rfl
      · have apart : (first.1 == entry.1) = false :=
          beq_false_of_ne fun same => notLater (same ▸ List.mem_map_of_mem later)
        rw [apart]
        exact ih distinct' later

/-- The value of a name among entries whose values are made of what they were. -/
theorem named?_map {α β : Type} (f : String × α → β) (entries : List (String × α))
    (name : String) :
    named? (entries.map fun entry => (entry.1, f entry)) name =
      (entries.find? fun entry => entry.1 == name).map f := by
  rw [named?, List.find?_map, Option.map_map]
  rfl

/-- Names that are distinct are left as they are. -/
theorem distinctNames_of_nodup {α : Type} {entries : List (String × α)}
    (distinct : (entries.map Prod.fst).Nodup) : distinctNames entries = entries := by
  -- by induction on the entries still to come, for any that are kept already
  have kept : ∀ (more kept : List (String × α)), ((kept ++ more).map Prod.fst).Nodup →
      more.foldl (fun kept entry => setNamed kept entry.1 entry.2) kept = kept ++ more := by
    intro more
    induction more with
    | nil => exact fun kept _ => (List.append_nil kept).symm
    | cons entry rest ih =>
        intro kept distinct
        have new : (kept.any fun other => other.1 == entry.1) = false := by
          refine List.any_eq_false.mpr fun other member same => ?_
          rw [List.map_append, List.map_cons, List.nodup_append] at distinct
          exact distinct.2.2 _ (List.mem_map_of_mem member) _ List.mem_cons_self
            (beq_iff_eq.mp same)
        have added : setNamed kept entry.1 entry.2 = kept ++ [entry] := by
          rw [setNamed, new]
          rfl
        rw [List.foldl_cons, added, ih (kept ++ [entry]) (by simpa using distinct)]
        simp
  exact kept entries [] distinct

/-- Values under distinct names, as far as there are both. -/
theorem distinctNames_zip {α : Type} {names : List String} (distinct : names.Nodup)
    (values : List α) : distinctNames (names.zip values) = names.zip values := by
  have among : ∀ (names : List String) (values : List α),
      ((names.zip values).map Prod.fst).Sublist names := by
    intro names
    induction names with
    | nil => exact fun _ => List.Sublist.slnil
    | cons name rest ih =>
        intro values
        cases values with
        | nil => exact List.nil_sublist _
        | cons value others => exact (ih others).cons_cons name
  exact distinctNames_of_nodup (distinct.sublist (among names values))

end RecallChat
