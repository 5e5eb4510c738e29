import RecallChat.Proofs.Archive.Merging
import RecallChat.Proofs.Logging.Growth
import RecallChat.Proofs.Paths.Places

/-!
# Opening an archive

Where the database of an archive stands is a matter of its path alone (`Archive.placeAt`): nowhere for
an archive in memory that no other can share, at a place of its own for a shared one in memory, and
else where the names of the path lead.  An archive that has been opened shows the tables that the
database there held before, or empty ones if there was none, and opening it has changed no other file
(`Archive.openAt_eq_ok`).
-/

set_option autoImplicit false

namespace RecallChat

namespace Archive

variable {files after : ArchiveFiles} {path : String} {place : Place} {tables : Tables}

/-- The part of a path that names a file: it ends before the first null character. -/
def fileName (path : String) : String := String.ofList (path.toList.takeWhile (· != '\x00'))

/-- The place of the database of a path, if it is one that other archives can share. -/
def placeAt (path : String) : Option Place :=
  if path = inMemory ∨ path = "" then none
  else if path.startsWith inMemory then some (memoryPlace path)
  else some (FileSystem.plainPlace (.ofText (fileName path)))

/-- The tables of the database at a place; where there is none, they are empty. -/
def tablesAt (files : ArchiveFiles) (place : Option Place) : Tables :=
  match place.bind files.entry? with
  | some (.database tables) => tables
  | _ => .empty

/-- That an archive of a path was opened on files: it shows the tables of the database at the place
of its path, where no file of another kind stands, and all other files are as they were. -/
structure Opened (archive : Archive) (path : String) (before after : ArchiveFiles) : Prop where
  path_eq : archive.path = path
  isOpen : archive.isOpen = true
  idle : archive.database.working = none
  place_eq : archive.place = placeAt path
  current_eq : archive.current after = ⟨tablesAt before (placeAt path), none⟩
  readable : path.startsWith inMemory = false → ∀ place content, placeAt path = some place →
    before.entry? place = some (.file content) → content.isEmpty = true
  kept : ∀ other, some other ≠ placeAt path → after.entry? other = before.entry? other

/-! ## Shared databases -/

/-- That a database at a place was opened on files: it has the tables that were there before, and all
other files are as they were. -/
structure Shares (before : ArchiveFiles) (place : Place) (tables : Tables) (after : ArchiveFiles) :
    Prop where
  tables_eq : tables = tablesAt before (some place)
  found : after.entry? place = some (.database tables)
  kept : ∀ other ≠ place, after.entry? other = before.entry? other

theorem tablesAt_of_database (found : files.entry? place = some (.database tables)) :
    tablesAt files (some place) = tables := by
  unfold tablesAt
  rw [Option.bind_some, found]

theorem tablesAt_of_other (other : ∀ tables, files.entry? place ≠ some (.database tables)) :
    tablesAt files (some place) = .empty := by
  unfold tablesAt
  rw [Option.bind_some]
  split
  · next tables found => exact (other tables found).elim
  · rfl

/-- A database that is there is shared as it is. -/
theorem shares_of_database (found : files.entry? place = some (.database tables)) :
    Shares files place tables files :=
  ⟨(tablesAt_of_database found).symm, found, fun _ _ => rfl⟩

/-- A database that is made where there was none is empty. -/
theorem shares_of_new {middle : ArchiveFiles} (below : place ≠ [])
    (none : ∀ tables, files.entry? place ≠ some (.database tables))
    (kept : ∀ other ≠ place, middle.entry? other = files.entry? other) :
    Shares files place .empty (middle.set place (.database .empty)) where
  tables_eq := (tablesAt_of_other none).symm
  found := FileSystem.entry?_set middle below _
  kept other different := (FileSystem.entry?_set_other different).trans (kept other different)

/-- Opening the database file of a path shares the database there; a file of bytes there is empty. -/
theorem openFile_eq_ok (opened : openFile files path = .ok (place, tables, after)) :
    place = FileSystem.plainPlace (.ofText path) ∧ Shares files place tables after ∧
      ∀ content, files.entry? place = some (.file content) → content.isEmpty = true := by
  unfold openFile at opened
  split at opened
  · cases opened
  · next there middle appended =>
    obtain ⟨walks, ⟨entry, found, -, rfl⟩ | ⟨absent, rfl⟩⟩ :=
      FileSystem.openForAppend_cases appended
    · rw [found] at opened
      split at opened
      · next same =>
        cases same
        cases opened
        refine ⟨FileSystem.walk_eq_ok walks, shares_of_database found, fun content file => ?_⟩
        cases found.symm.trans file
      · next empty same =>
        cases same
        split at opened
        · next nothing =>
          cases opened
          have below : place ≠ [] := FileSystem.ne_nil_of_holds found nofun
          refine ⟨FileSystem.walk_eq_ok walks, shares_of_new below ?_ fun _ _ => rfl, ?_⟩
          · intro tables database
            cases found.symm.trans database
          · intro content file
            cases found.symm.trans file
            exact nothing
        · cases opened
      · cases opened
    · have below : there ≠ [] := FileSystem.ne_nil_of_holds absent nofun
      rw [FileSystem.entry?_set files below] at opened
      cases opened
      refine ⟨FileSystem.walk_eq_ok walks, shares_of_new below ?_ ?_, ?_⟩
      · intro tables database
        cases absent.symm.trans database
      · exact fun other different => FileSystem.entry?_set_other different
      · intro content file
        cases absent.symm.trans file

/-- Opening a shared database shares the database at the place of its path. -/
theorem openShared_eq_ok (shared : ¬ (path = inMemory ∨ path = ""))
    (opened : openShared files path = .ok (place, tables, after)) :
    placeAt path = some place ∧ Shares files place tables after ∧
      (path.startsWith inMemory = false → ∀ content,
        files.entry? place = some (.file content) → content.isEmpty = true) := by
  unfold placeAt
  rw [if_neg shared]
  unfold openShared at opened
  split at opened
  · next memory =>
    rw [if_pos memory]
    have fileless : path.startsWith inMemory = false → ∀ content,
        files.entry? place = some (.file content) → content.isEmpty = true := by
      intro other
      rw [memory] at other
      cases other
    dsimp only at opened
    split at opened
    · next found =>
      cases opened
      exact ⟨rfl, shares_of_database found, fileless⟩
    · next other =>
      cases opened
      exact ⟨rfl, shares_of_new nofun other fun _ _ => rfl, fileless⟩
  · next file =>
    rw [if_neg file]
    dsimp only at opened
    split at opened
    · cases opened
    · obtain ⟨rfl, shares, readable⟩ := openFile_eq_ok opened
      exact ⟨rfl, shares, fun _ => readable⟩

/-! ## Opening -/

variable {archive : Archive}

/-- A shared database that can be opened is. -/
theorem perform_openAt_of_shared (shared : ¬ (path = inMemory ∨ path = ""))
    {scene : Scene ArchiveFiles}
    (opened : openShared scene.world path = .ok (place, tables, files)) :
    (openAt path).perform scene =
      (.ok ⟨path, some place, true, ⟨tables, none⟩⟩, ⟨files, scene.journal⟩) := by
  unfold openAt
  rw [if_neg shared, Action.perform_bind_of_ok (Action.perform_world scene), opened]
  rfl

/-- **An archive that is opened at a path shows the tables of the database there**, or empty ones
where there was none. -/
theorem openAt_eq_ok {scene after : Scene ArchiveFiles}
    (opens : (openAt path).perform scene = (.ok archive, after)) :
    archive.Opened path scene.world after.world := by
  unfold openAt at opens
  split at opens
  · next alone =>
    cases opens
    have nowhere : placeAt path = none := if_pos alone
    refine ⟨rfl, rfl, rfl, nowhere.symm, ?_, ?_, fun _ _ => rfl⟩
    · rw [nowhere]
      rfl
    · rw [nowhere]
      nofun
  · next shared =>
    rw [Action.perform_bind_of_ok (Action.perform_world scene)] at opens
    obtain ⟨⟨place, tables, files⟩, _, first, rest⟩ := Action.perform_bind_eq_ok.mp opens
    obtain ⟨opened, rfl⟩ := Action.perform_ofExcept_eq_ok.mp first
    cases rest
    obtain ⟨there, shares, readable⟩ := openShared_eq_ok shared opened
    refine ⟨rfl, rfl, rfl, there.symm, ?_, ?_, ?_⟩
    · rw [there, ← shares.tables_eq]
      unfold current
      rw [Option.bind_some, shares.found]
    · intro file there' content same
      rw [there] at same
      cases same
      exact readable file content
    · intro other different
      exact shares.kept other fun same => different (same ▸ there.symm)

end Archive

end RecallChat
