import RecallChat.FileSystem
import RecallChat.Proofs.Ending

/-!
# Paths that lead nowhere

A path can name no file at all, because of a surrogate or a null character in it (`Path.Unnamed`).
Every other path is walked name by name, and the walk is refused for one of three reasons: a path or a
name that is too long, a name that is missing on the way, or one that is no directory
(`FileSystem.Unwalkable`).  What is looked up at a path is refused for the same reasons, so only a
path that names no file is refused for that (`FileSystem.unnamed_of_readBytes`), and asking what is
at a path fails for long paths alone (`FileSystem.find?_ends`).
-/

set_option autoImplicit false

namespace RecallChat

open RecallChat.Text

/-- Why a path names no file, if it names none: the first reason that applies. -/
inductive Path.Unnamed (path : Path) : FileTrouble → Prop
  | surrogate (inside : path.points.any CodePoints.isUnnameable = true) :
      Unnamed path .unnameable
  | nul (nameable : ¬ path.points.any CodePoints.isUnnameable = true)
      (inside : path.points.contains 0 = true) : Unnamed path .nulInName

/-- A path that is too long as a whole or has a name in it that is. -/
def Path.IsLong (path : Path) : Prop :=
  4096 ≤ path.points.byteSize ∨ ∃ name ∈ path.parts, 255 < name.byteSize

/-- The fault of asking what is at a long path. -/
inductive Fault.LongName : Fault → Prop
  | found {path : Path} (long : path.IsLong) : LongName (FileTrouble.nameTooLong.fault path.points)

namespace FileSystem

variable {δ : Type} (files : FileSystem δ)

/-! ## Walks -/

/-- Why a path cannot be walked. -/
inductive Unwalkable (path : Path) : FileTrouble → Prop
  | unnamed {trouble : FileTrouble} (unnamed : path.Unnamed trouble) : Unwalkable path trouble
  | long (long : path.IsLong) : Unwalkable path .nameTooLong
  | absent : Unwalkable path .absent
  | notDirectory : Unwalkable path .notDirectory

variable {files}

/-- A step is refused for its name only when that is too long. -/
theorem step_refused {place : Place} {name : CodePoints} {trouble : FileTrouble}
    (refused : files.step place name = .error trouble) :
    trouble = .absent ∨ trouble = .notDirectory ∨
      (trouble = .nameTooLong ∧ 255 < name.byteSize) := by
  unfold step at refused
  split at refused
  · cases refused
    exact .inl rfl
  · split at refused
    · cases refused
    · split at refused
      next long =>
        cases refused
        exact .inr (.inr ⟨rfl, long⟩)
      next => cases refused
  · cases refused
    exact .inr (.inl rfl)

/-- Some step of a refused walk is refused. -/
theorem exists_step_refused {names : List CodePoints} {place : Place} {trouble : FileTrouble}
    (refused : names.foldlM files.step place = .error trouble) :
    ∃ name ∈ names, ∃ place, files.step place name = .error trouble := by
  induction names generalizing place with
  | nil => cases refused
  | cons name rest ih =>
      rw [List.foldlM_cons] at refused
      cases stepped : files.step place name with
      | ok next =>
          rw [stepped] at refused
          obtain ⟨other, member, reached, fails⟩ := ih refused
          exact ⟨other, List.mem_cons_of_mem name member, reached, fails⟩
      | error found =>
          rw [stepped] at refused
          cases refused
          exact ⟨name, List.mem_cons_self, place, stepped⟩

theorem unwalkable_of_walk {path : Path} {trouble : FileTrouble}
    (refused : files.walk path = .error trouble) : Unwalkable path trouble := by
  unfold walk at refused
  split at refused
  next inside =>
    cases refused
    exact .unnamed (.surrogate inside)
  next nameable =>
    split at refused
    next inside =>
      cases refused
      exact .unnamed (.nul nameable inside)
    next =>
      split at refused
      next long =>
        cases refused
        exact .long (.inl long)
      next =>
        obtain ⟨name, member, _, stepped⟩ := exists_step_refused refused
        rcases step_refused stepped with rfl | rfl | ⟨rfl, long⟩
        · exact .absent
        · exact .notDirectory
        · exact .long (.inr ⟨name, member, long⟩)

theorem unwalkable_of_lookup {path : Path} {trouble : FileTrouble}
    (refused : files.lookup path = .error trouble) : Unwalkable path trouble := by
  unfold lookup at refused
  cases walked : files.walk path with
  | error found =>
      rw [walked] at refused
      cases refused
      exact unwalkable_of_walk walked
  | ok place =>
      rw [walked] at refused
      simp only [bind, Except.bind] at refused
      split at refused
      · cases refused
      · cases refused
        exact .absent

/-! ## Reading and asking -/

/-- Only a path that names no file is refused for that. -/
theorem unnamed_of_readBytes {path : Path} {trouble : FileTrouble}
    (refused : files.readBytes path = .error trouble)
    (noName : trouble = .unnameable ∨ trouble = .nulInName) : path.Unnamed trouble := by
  unfold readBytes at refused
  cases found : files.lookup path with
  | error other =>
      rw [found] at refused
      cases refused
      cases unwalkable_of_lookup found with
      | unnamed unnamed => exact unnamed
      | _ => simp at noName
  | ok entry =>
      rw [found] at refused
      simp only [bind, Except.bind] at refused
      split at refused <;> cases refused
      simp at noName

theorem readBytes_of_unnamed {path : Path} {trouble : FileTrouble}
    (unnamed : path.Unnamed trouble) : files.readBytes path = .error trouble := by
  unfold readBytes lookup walk
  cases unnamed with
  | surrogate inside =>
      rw [if_pos inside]
      rfl
  | nul nameable inside =>
      rw [if_neg nameable, if_pos inside]
      rfl

variable (files)

theorem find?_ends (path : Path) :
    Outcome.Ends (fun _ => True) Fault.LongName (files.find? path) := by
  unfold find?
  split
  next => exact trivial
  next refused =>
    cases unwalkable_of_lookup refused with
    | unnamed unnamed => cases unnamed
    | long long => exact .found long
  next => exact trivial

theorem isFile_ends (path : Path) :
    Outcome.Ends (fun _ => True) Fault.LongName (files.isFile path) :=
  (files.find?_ends path).map fun _ _ => trivial

theorem pathExists_ends (path : Path) :
    Outcome.Ends (fun _ => True) Fault.LongName (files.pathExists path) :=
  (files.find?_ends path).map fun _ _ => trivial

theorem absent_ends (paths : List Path) :
    Outcome.Ends (fun _ => True) Fault.LongName (files.absent paths) :=
  .filterM (fun path => (files.pathExists_ends path).map fun _ _ => trivial) paths

end FileSystem

end RecallChat
