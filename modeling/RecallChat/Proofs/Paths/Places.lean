import RecallChat.FileSystem
import RecallChat.Proofs.Paths.Components

/-!
# Places of paths

A walk that is not refused ends at the place that the names of a path lead to
(`FileSystem.walk_eq_ok`), whatever the file system.  No `..` is left in the absolute path of a path,
so this path leads to the same place (`FileSystem.plainPlace_resolved`).  It is the path of that
place where every name is that of its file (`FileSystem.pathOfPlace_plainPlace`), which is so for
strings (`Path.namesFiles_ofText`); paths with such names that lead to one place have one absolute
path (`FileSystem.spelledAlike_of_namesFiles`).

The absolute path of a path can be found over its text or over its names.  Both ways give the same
path if and only if the path has not two slashes at its root
(`FileSystem.ofPoints_absolutePoints_iff`): these are kept by the first way and lost by the second.
-/

set_option autoImplicit false

namespace RecallChat

open RecallChat.Text

/-- That every name in a path is that of its file. -/
def Path.NamesFiles (path : Path) : Prop := ∀ part ∈ path.parts, part.fileName = part

/-- Strings have no escapes in them, so their names are those of files. -/
theorem Path.namesFiles_ofText (text : String) : (Path.ofText text).NamesFiles := by
  intro part member
  obtain ⟨piece, _⟩ := List.mem_filter.mp member
  refine CodePoints.fileName_of_noEscape fun point inside => ?_
  have inText : point ∈ CodePoints.ofString text := Path.mem_of_mem_splitOn piece inside
  obtain ⟨c, _, rfl⟩ := List.mem_map.mp inText
  exact CodePoints.isEscape_toNat c

namespace FileSystem

variable {δ : Type} {files : FileSystem δ} {place next : Place} {name : CodePoints}
  {kept names : List CodePoints} {path : Path}

/-! ## Walks -/

/-- A step keeps names as they are kept in a path, as the names of files. -/
theorem step_eq_ok (stepped : files.step (kept.map CodePoints.fileName) name = .ok next) :
    next = (Path.keep kept name).map CodePoints.fileName := by
  unfold step at stepped
  split at stepped
  · cases stepped
  · split at stepped
    next up =>
      cases stepped
      rw [Path.keep, if_pos up, List.map_dropLast]
    next down =>
      split at stepped
      · cases stepped
      · cases stepped
        rw [Path.keep, if_neg down, List.map_append, List.map_singleton]
  · cases stepped

theorem foldlM_step_eq_ok
    (walked : names.foldlM files.step (kept.map CodePoints.fileName) = .ok next) :
    next = (names.foldl Path.keep kept).map CodePoints.fileName := by
  induction names generalizing kept with
  | nil =>
      cases walked
      rfl
  | cons name rest ih =>
      rw [List.foldlM_cons] at walked
      cases stepped : files.step (kept.map CodePoints.fileName) name with
      | error trouble =>
          rw [stepped] at walked
          cases walked
      | ok middle =>
          rw [stepped, step_eq_ok stepped] at walked
          exact ih walked

/-- A walk ends at the place of the names of its path. -/
theorem walk_eq_ok (walked : files.walk path = .ok place) : place = plainPlace path := by
  have start : (if path.isAbsolute then [] else workingPlace) =
      (if path.isAbsolute then [] else workingPlace).map CodePoints.fileName := by
    split
    · rfl
    · decide +kernel
  unfold walk at walked
  split at walked
  · cases walked
  · split at walked
    · cases walked
    · split at walked
      · cases walked
      · rw [start] at walked
        exact foldlM_step_eq_ok walked

/-! ## Paths without `..` -/

/-- What holds of the names with which a path starts and of those in the path holds of the names
that are kept of it. -/
theorem forall_mem_foldl_keep {holds : CodePoints → Prop} (start : ∀ name ∈ kept, holds name)
    (each : ∀ name ∈ names, name ≠ Path.up → holds name) :
    ∀ name ∈ names.foldl Path.keep kept, holds name := by
  induction names generalizing kept with
  | nil => exact start
  | cons first rest ih =>
      refine ih ?_ fun name member => each name (List.mem_cons_of_mem _ member)
      rw [Path.keep]
      split
      next => exact fun name member => start name (List.dropLast_subset kept member)
      next down =>
        intro name member
        rcases List.mem_append.mp member with before | last
        · exact start name before
        · rw [List.mem_singleton.mp last]
          exact each first List.mem_cons_self down

theorem up_notMem_resolved (path : Path) : Path.up ∉ (resolved path).parts := by
  have start : ∀ name ∈ (if path.isAbsolute then [] else workingPlace), name ≠ Path.up := by
    split <;> decide
  exact fun member => forall_mem_foldl_keep start (fun _ _ down => down) _ member rfl

theorem foldl_keep_of_notMem (free : Path.up ∉ names) :
    names.foldl Path.keep kept = kept ++ names := by
  induction names generalizing kept with
  | nil => exact (List.append_nil kept).symm
  | cons name rest ih =>
      have down : name ≠ Path.up := fun same => free (same ▸ List.mem_cons_self)
      rw [List.foldl_cons, ih fun member => free (List.mem_cons_of_mem _ member), Path.keep,
        if_neg down, List.append_assoc, List.singleton_append]

theorem resolved_pathOfPlace (free : Path.up ∉ place) :
    resolved (pathOfPlace place) = pathOfPlace place :=
  congrArg (Path.mk 1) (foldl_keep_of_notMem free)

/-- A path and its absolute path lead to one place. -/
theorem plainPlace_resolved (path : Path) : plainPlace (resolved path) = plainPlace path :=
  congrArg (fun path : Path => path.parts.map CodePoints.fileName)
    (resolved_pathOfPlace (up_notMem_resolved path))

/-- The names of the absolute path of a path can stand in a path. -/
theorem wellFormed_resolved (wellFormed : path.WellFormed) {slashes : Nat} (few : slashes ≤ 2) :
    Path.WellFormed ⟨slashes, (resolved path).parts⟩ := by
  refine ⟨few, forall_mem_foldl_keep ?_ fun name member _ => wellFormed.2 name member⟩
  split <;> decide

/-- The place of names that are those of their files is the place of the absolute path. -/
theorem pathOfPlace_plainPlace (namesFiles : path.NamesFiles) :
    pathOfPlace (plainPlace path) = resolved path := by
  have same : ∀ name ∈ (resolved path).parts, name.fileName = name := by
    refine forall_mem_foldl_keep ?_ fun name member _ => namesFiles name member
    split <;> decide +kernel
  exact congrArg (Path.mk 1) ((List.map_congr_left same).trans (List.map_id _))

/-! ## Spellings -/

/-- That paths to one place, among some paths, have one absolute path. -/
def SpelledAlike (paths : List Path) : Prop :=
  ∀ path ∈ paths, ∀ other ∈ paths,
    plainPlace path = plainPlace other → resolved path = resolved other

instance (paths : List Path) : Decidable (SpelledAlike paths) :=
  inferInstanceAs (Decidable (∀ path ∈ paths, ∀ other ∈ paths,
    plainPlace path = plainPlace other → resolved path = resolved other))

/-- Names that are those of their files spell every place in one way. -/
theorem spelledAlike_of_namesFiles {paths : List Path}
    (namesFiles : ∀ path ∈ paths, path.NamesFiles) : SpelledAlike paths := by
  intro path member other member' same
  rw [← pathOfPlace_plainPlace (namesFiles path member), same,
    pathOfPlace_plainPlace (namesFiles other member')]

/-! ## Absolute paths -/

/-- The text of a path from the root, written without `..`, is that of its absolute path with the
slashes that it had. -/
theorem settledPoints_eq {points : CodePoints}
    (root : (Path.ofPoints points).isAbsolute = true) :
    Path.settledPoints points =
      Path.points ⟨(Path.ofPoints points).slashes, (resolved (.ofPoints points)).parts⟩ := by
  rw [resolved, root]
  rfl

/-- A text below the text of the working directory. -/
theorem ofPoints_below (points : CodePoints) :
    Path.ofPoints ((pathOfPlace workingPlace).points ++ Path.slash :: points) =
      ⟨1, workingPlace ++ (Path.ofPoints points).parts⟩ := by
  rw [Path.ofPoints, List.splitOn_append_cons_self, List.filter_append]
  rfl

/-- The absolute text of a path is that of its absolute path, from one slash if it had none. -/
theorem absolutePoints_eq (points : CodePoints) :
    absolutePoints points = Path.points
      ⟨max 1 (Path.ofPoints points).slashes, (resolved (.ofPoints points)).parts⟩ := by
  rw [absolutePoints]
  split
  next root =>
    have some : 1 ≤ (Path.ofPoints points).slashes :=
      Nat.one_le_iff_ne_zero.mpr (bne_iff_ne.mp root)
    rw [settledPoints_eq root, Nat.max_eq_right some]
  next relative =>
    have none : (Path.ofPoints points).slashes = 0 := by simpa [Path.isAbsolute] using relative
    have below := ofPoints_below points
    rw [settledPoints_eq (by rw [below]; rfl), below, resolved, resolved, if_neg relative, none]
    refine congrArg (fun parts => Path.points ⟨1, parts⟩) ?_
    exact List.foldl_append

/-- **The absolute path of a path is the same over its text and over its names**, but for two slashes
at its root. -/
theorem ofPoints_absolutePoints_iff (wellFormed : path.WellFormed) :
    Path.ofPoints (absolutePoints path.points) = resolved path ↔ path.slashes ≠ 2 := by
  have atMost : path.slashes ≤ 2 := wellFormed.1
  have wellFormed' : Path.WellFormed ⟨max 1 path.slashes, (resolved path).parts⟩ :=
    wellFormed_resolved wellFormed (by omega)
  have path_eq : resolved path = ⟨1, (resolved path).parts⟩ := rfl
  rw [absolutePoints_eq, Path.ofPoints_points wellFormed, Path.ofPoints_points wellFormed', path_eq,
    Path.mk.injEq, and_iff_left rfl]
  omega

end FileSystem

end RecallChat
