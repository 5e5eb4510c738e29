import RecallChat.FileSystem

/-!
# Growing file systems

A file system grows when nothing is taken away from it and its files of bytes only get longer
(`FileSystem.Grows`).  Walks that were not refused lead to the same places afterwards, so a file that
can be opened for bytes to be added can be opened again, and this changes nothing
(`FileSystem.Leads`).

Making directories and opening a file only add directories and an empty file, and change no entry
(`FileSystem.Extends`).  Adding bytes to the files of several places lengthens each of them once,
however many places there are, and no other (`FileSystem.entry?_appendAll`).
-/

set_option autoImplicit false

namespace RecallChat

variable {δ : Type}

/-- What an entry can become in a file system that grows. -/
inductive FileEntry.Grows : FileEntry δ → FileEntry δ → Prop
  | directory : Grows .directory .directory
  | file (content more : ByteArray) : Grows (.file content) (.file (content ++ more))
  | database (content : δ) : Grows (.database content) (.database content)

namespace FileEntry

theorem Grows.refl : ∀ entry : FileEntry δ, entry.Grows entry
  | .directory => .directory
  | .file content => by
      have same := Grows.file (δ := δ) content .empty
      rwa [ByteArray.append_empty] at same
  | .database content => .database content

theorem Grows.trans {first second third : FileEntry δ} (grows : first.Grows second)
    (grows' : second.Grows third) : first.Grows third := by
  cases grows with
  | directory => exact grows'
  | database content => exact grows'
  | file content more =>
      cases grows' with
      | file _ more' =>
          rw [ByteArray.append_assoc]
          exact .file content (more ++ more')

/-- Whether an entry is a file, of bytes or of a database. -/
def IsFile : FileEntry δ → Prop
  | .directory => False
  | .file _ => True
  | .database _ => True

theorem Grows.isFile {first second : FileEntry δ} (grows : first.Grows second)
    (isFile : first.IsFile) : second.IsFile := by
  cases grows <;> exact isFile

end FileEntry

namespace FileSystem

variable {files middle after : FileSystem δ} {place next other : Place} {path : Path}
  {entry : FileEntry δ}

/-! ## Setting a place -/

/-- The root is a directory. -/
theorem ne_nil_of_holds {found : Option (FileEntry δ)} (holds : files.entry? place = found)
    (other : found ≠ some .directory) : place ≠ [] := by
  rintro rfl
  exact other (holds.symm.trans (if_pos rfl))

/-- Setting a place leaves the others alone. -/
theorem entry?_set_other (different : other ≠ place) :
    entry? (files.set place entry) other = files.entry? other := by
  have passed : (place == other) = false := beq_eq_false_iff_ne.mpr different.symm
  unfold entry? set
  split
  · rfl
  · split
    next =>
      induction files.entries with
      | nil => rfl
      | cons old rest ih =>
          rw [List.map_cons, List.find?_cons, List.find?_cons]
          by_cases same : (old.1 == place) = true
          · have old_eq : old.1 = place := beq_iff_eq.mp same
            rw [if_pos same, old_eq, passed]
            exact ih
          · rw [if_neg same]
            split
            · rfl
            · exact ih
    next => rw [List.find?_append, List.find?_singleton, passed, if_neg Bool.false_ne_true,
        Option.or_none]

/-! ## Growing -/

/-- That nothing is taken away and files of bytes only get longer. -/
def Grows (files after : FileSystem δ) : Prop :=
  ∀ place entry, files.entry? place = some entry →
    ∃ grown, after.entry? place = some grown ∧ entry.Grows grown

theorem Grows.refl (files : FileSystem δ) : files.Grows files :=
  fun _ entry found => ⟨entry, found, .refl entry⟩

theorem Grows.trans (first : files.Grows middle) (second : middle.Grows after) :
    files.Grows after := by
  intro place entry found
  obtain ⟨grown, found', grows⟩ := first place entry found
  obtain ⟨grown', found'', grows'⟩ := second place grown found'
  exact ⟨grown', found'', grows.trans grows'⟩

theorem Grows.entry?_directory (grows : files.Grows after)
    (found : files.entry? place = some .directory) : after.entry? place = some .directory := by
  obtain ⟨grown, found', same⟩ := grows place _ found
  cases same
  exact found'

theorem Grows.step (grows : files.Grows after) {name : Text.CodePoints}
    (stepped : files.step place name = .ok next) : after.step place name = .ok next := by
  unfold FileSystem.step at stepped ⊢
  split at stepped
  · cases stepped
  next found => rwa [grows.entry?_directory found]
  · cases stepped

theorem Grows.foldlM_step (grows : files.Grows after) {names : List Text.CodePoints}
    (walked : names.foldlM files.step place = .ok next) :
    names.foldlM after.step place = .ok next := by
  induction names generalizing place with
  | nil => exact walked
  | cons name rest ih =>
      rw [List.foldlM_cons] at walked ⊢
      cases stepped : files.step place name with
      | error trouble =>
          rw [stepped] at walked
          cases walked
      | ok between =>
          rw [stepped] at walked
          rw [grows.step stepped]
          exact ih walked

theorem Grows.walk (grows : files.Grows after) (walked : files.walk path = .ok place) :
    after.walk path = .ok place := by
  unfold FileSystem.walk at walked ⊢
  split at walked
  · cases walked
  next nameable =>
    rw [if_neg nameable]
    split at walked
    · cases walked
    next noNul =>
      rw [if_neg noNul]
      split at walked
      · cases walked
      next short =>
        rw [if_neg short]
        exact grows.foldlM_step walked

/-! ## Files that are there -/

/-- That a path leads to a file. -/
structure Leads (files : FileSystem δ) (path : Path) (place : Place) : Prop where
  walks : files.walk path = .ok place
  isFile : ∃ entry, files.entry? place = some entry ∧ entry.IsFile

theorem Leads.grow (leads : files.Leads path place) (grows : files.Grows after) :
    after.Leads path place := by
  obtain ⟨entry, found, isFile⟩ := leads.isFile
  obtain ⟨grown, found', grows'⟩ := grows place entry found
  exact ⟨grows.walk leads.walks, grown, found', grows'.isFile isFile⟩

/-- A file that is there can be opened, and this changes nothing. -/
theorem Leads.openForAppend (leads : files.Leads path place) :
    files.openForAppend path = .ok (place, files) := by
  obtain ⟨entry, found, isFile⟩ := leads.isFile
  rw [FileSystem.openForAppend, leads.walks]
  simp only [bind, Except.bind, found]
  cases entry with
  | directory => exact isFile.elim
  | file content => rfl
  | database content => rfl

/-! ## Directories and empty files -/

/-- That no entry is changed, and directories and empty files are all that is added. -/
structure Extends (files after : FileSystem δ) : Prop where
  kept : ∀ place entry, files.entry? place = some entry → after.entry? place = some entry
  added : ∀ place, files.entry? place = none → after.entry? place = none ∨
    after.entry? place = some .directory ∨ after.entry? place = some (.file .empty)

namespace Extends

theorem refl (files : FileSystem δ) : files.Extends files :=
  ⟨fun _ _ found => found, fun _ absent => .inl absent⟩

theorem trans (first : files.Extends middle) (second : middle.Extends after) :
    files.Extends after where
  kept place entry found := second.kept place entry (first.kept place entry found)
  added place absent := by
    rcases first.added place absent with absent' | found | found
    · exact second.added place absent'
    · exact .inr (.inl (second.kept place _ found))
    · exact .inr (.inr (second.kept place _ found))

theorem grows (extend : files.Extends after) : files.Grows after :=
  fun place entry found => ⟨entry, extend.kept place entry found, .refl entry⟩

/-- A file where nothing was is empty. -/
theorem entry?_eq_empty (extend : files.Extends after) (absent : files.entry? place = none)
    (isFile : ∃ entry, after.entry? place = some entry ∧ entry.IsFile) :
    after.entry? place = some (.file .empty) := by
  obtain ⟨entry, found, isFile⟩ := isFile
  rcases extend.added place absent with absent' | directory | empty
  · cases absent'.symm.trans found
  · cases directory.symm.trans found
    exact isFile.elim
  · exact empty

theorem set (absent : files.entry? place = none)
    (new : entry = .directory ∨ entry = .file .empty) : files.Extends (files.set place entry) where
  kept other old found := by
    have different : other ≠ place := by
      rintro rfl
      rw [absent] at found
      cases found
    rw [entry?_set_other different]
    exact found
  added other absent' := by
    by_cases same : other = place
    · subst same
      rw [entry?_set files (ne_nil_of_holds absent nofun)]
      exact .inr (new.imp (congrArg some) (congrArg some))
    · rw [entry?_set_other same]
      exact .inl absent'

end Extends

theorem makeDirectory_extends (made : files.makeDirectory path = .ok after) :
    files.Extends after := by
  unfold makeDirectory at made
  cases walked : files.walk path with
  | error trouble =>
      rw [walked] at made
      cases made
  | ok place =>
      rw [walked] at made
      simp only [bind, Except.bind] at made
      split at made
      · cases made
        exact .refl files
      · cases made
      next absent =>
        cases made
        exact .set absent (.inl rfl)

theorem makeDirectoriesUpTo_extends {count : Nat}
    (made : files.makeDirectoriesUpTo path count = .ok after) : files.Extends after := by
  induction count generalizing files after with
  | zero => exact makeDirectory_extends made
  | succ count ih =>
      unfold makeDirectoriesUpTo at made
      dsimp only at made
      split at made
      next =>
        cases parents : files.makeDirectoriesUpTo path count with
        | error trouble =>
            rw [parents] at made
            cases made
        | ok middle =>
            rw [parents] at made
            exact (ih parents).trans (makeDirectory_extends made)
      next => exact makeDirectory_extends made

/-- Making the directories of a path extends a file system. -/
theorem makeDirectories_extends (made : files.makeDirectories path = .ok after) :
    files.Extends after :=
  makeDirectoriesUpTo_extends made

/-- Opening the file of a path changes nothing if it is there, and makes it if nothing is. -/
theorem openForAppend_cases (opened : files.openForAppend path = .ok (place, after)) :
    files.walk path = .ok place ∧
      ((∃ entry, files.entry? place = some entry ∧ entry.IsFile ∧ after = files) ∨
        files.entry? place = none ∧ after = files.set place (.file .empty)) := by
  unfold FileSystem.openForAppend at opened
  cases walked : files.walk path with
  | error trouble =>
      rw [walked] at opened
      cases opened
  | ok there =>
      rw [walked] at opened
      simp only [bind, Except.bind] at opened
      split at opened
      · cases opened
      next entry notDirectory found =>
        cases opened
        refine ⟨rfl, .inl ⟨entry, found, ?_, rfl⟩⟩
        cases entry with
        | directory => exact (notDirectory rfl).elim
        | file content => trivial
        | database content => trivial
      next absent =>
        split at opened
        · cases opened
          exact ⟨rfl, .inr ⟨absent, rfl⟩⟩
        · cases opened
        · cases opened

/-- Opening the file of a path extends a file system, and the path leads to the file then. -/
theorem openForAppend_eq_ok (opened : files.openForAppend path = .ok (place, after)) :
    files.Extends after ∧ after.Leads path place := by
  obtain ⟨walks, ⟨entry, found, isFile, rfl⟩ | ⟨absent, rfl⟩⟩ := openForAppend_cases opened
  · exact ⟨.refl _, walks, entry, found, isFile⟩
  · have below : place ≠ [] := ne_nil_of_holds absent nofun
    have extend : files.Extends (files.set place (.file .empty)) := .set absent (.inr rfl)
    exact ⟨extend, extend.grows.walk walks, _, entry?_set files below _, trivial⟩

/-! ## Adding bytes -/

theorem entry?_append_other (different : other ≠ place) (bytes : ByteArray) :
    entry? (files.append place bytes) other = files.entry? other := by
  unfold append
  split
  · exact entry?_set_other different
  · rfl

theorem entry?_append {content : ByteArray} (found : files.entry? place = some (.file content))
    (bytes : ByteArray) :
    entry? (files.append place bytes) place = some (.file (content ++ bytes)) := by
  unfold append
  rw [found]
  exact entry?_set files (ne_nil_of_holds found nofun) _

theorem append_grows (files : FileSystem δ) (place : Place) (bytes : ByteArray) :
    files.Grows (files.append place bytes) := by
  intro other entry found
  by_cases same : other = place
  · subst same
    cases entry with
    | file content => exact ⟨_, entry?_append found bytes, .file content bytes⟩
    | directory =>
        refine ⟨.directory, ?_, .directory⟩
        rwa [append, found]
    | database content =>
        refine ⟨.database content, ?_, .database content⟩
        rwa [append, found]
  · rw [entry?_append_other same]
    exact ⟨entry, found, .refl entry⟩

theorem appendAll_grows (files : FileSystem δ) (places : List Place) (bytes : ByteArray) :
    files.Grows (files.appendAll places bytes) := by
  induction places generalizing files with
  | nil => exact .refl files
  | cons place rest ih => exact (append_grows files place bytes).trans (ih _)

theorem entry?_appendAll_other {places : List Place} (others : other ∉ places)
    (bytes : ByteArray) : entry? (files.appendAll places bytes) other = files.entry? other := by
  induction places generalizing files with
  | nil => rfl
  | cons place rest ih =>
      refine (ih (List.not_mem_of_not_mem_cons others)).trans ?_
      exact entry?_append_other (List.ne_of_not_mem_cons others) bytes

/-- Each of several files is lengthened once, and no other file. -/
theorem entry?_appendAll {places : List Place} (distinct : places.Nodup) {content : ByteArray}
    (found : files.entry? place = some (.file content)) (bytes : ByteArray) :
    entry? (files.appendAll places bytes) place =
      some (.file (content ++ if place ∈ places then bytes else .empty)) := by
  induction places generalizing files with
  | nil => rw [if_neg List.not_mem_nil, ByteArray.append_empty]; exact found
  | cons first rest ih =>
      obtain ⟨apart, distinct⟩ := List.nodup_cons.mp distinct
      by_cases same : place = first
      · subst same
        rw [if_pos List.mem_cons_self]
        exact (entry?_appendAll_other apart bytes).trans (entry?_append found bytes)
      · simp only [List.mem_cons, same, false_or]
        exact ih distinct ((entry?_append_other same bytes).trans found)

end FileSystem

end RecallChat
