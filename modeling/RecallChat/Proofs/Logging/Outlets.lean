import RecallChat.LogFile
import RecallChat.Proofs.Logging.Growth
import RecallChat.Proofs.Paths.Places

/-!
# Outlets of the journal

Log files are set up by calls in any order, between which records are written.  Calls can fail at
each of their steps, and one file can be asked for by many paths.

As long as no path starts with two slashes, every file that was set up has one outlet and no other
file has any, a call that fails leaves the outlets alone, and one that is refused for its level
leaves the levels alone too.  So the bytes of an accepted record are added to each of these files
once (`LogFile.Event.Settles`).  What one call does to outlets that are sound is said by
`LogFile.Call.event_settles`, and what all calls do that are made one after the other by
`LogFile.run_outlets`.

A path with two slashes at its root is left out because its outlet is not found again, as the text of
the outlet keeps both slashes and the resolved path keeps one
(`FileSystem.ofPoints_absolutePoints_iff`).  A file may be asked for by paths that differ in their
dots and slashes, but not by other names (`FileSystem.SpelledAlike`): a character in a name can be
written as escapes too, and the outlet of a file is not found by its other name.  Strings have no
escapes in them, so nothing is asked of paths that are strings (`LogFile.spelledAlike_of_strings`).

A record with a surrogate in it has no bytes, so it is accepted and not written.  Of this and of a
file with two names there is an example (`LogFile.surrogates_stray`).
-/

set_option autoImplicit false

namespace RecallChat

open RecallChat.Text RecallChat.Action

variable {δ : Type}

/-! ## Sound outlets -/

/-- What holds of the outlets where some paths may be asked for: the text of each outlet leads to a
file, no two of them to one, and a path to the same place has the path of this text as its absolute
path. -/
structure Logging.Sound (logging : Logging δ) (paths : List Path) : Prop where
  distinct : logging.outlets.places.Nodup
  leads : ∀ outlet ∈ logging.outlets.handlers,
    logging.files.Leads (.ofPoints outlet.file) outlet.place
  known : ∀ outlet ∈ logging.outlets.handlers, ∀ path ∈ paths,
    FileSystem.plainPlace path = outlet.place →
      Path.ofPoints outlet.file = FileSystem.resolved path

namespace Logging.Sound

variable {logging after : Logging δ} {paths : List Path} {path : Path}

/-- Sound outlets stay sound while files grow. -/
theorem grow (sound : logging.Sound paths) (grows : logging.files.Grows after.files)
    (same : after.outlets.handlers = logging.outlets.handlers) : after.Sound paths where
  distinct := by
    rw [LogOutlets.places, same]
    exact sound.distinct
  leads outlet member := (sound.leads outlet (same ▸ member)).grow grows
  known outlet member := sound.known outlet (same ▸ member)

/-- The file of a sound outlet is there. -/
theorem isFile (sound : logging.Sound paths) {place : Place}
    (member : place ∈ logging.outlets.places) :
    ∃ entry, logging.files.entry? place = some entry ∧ entry.IsFile := by
  obtain ⟨outlet, open', rfl⟩ := List.mem_map.mp member
  exact (sound.leads outlet open').isFile

/-- Closing a path closes the outlet at its place. -/
theorem handlers_close (sound : logging.Sound paths) (asked : path ∈ paths) :
    (logging.outlets.close path).handlers = logging.outlets.handlers.filter fun outlet =>
      outlet.place != FileSystem.plainPlace path := by
  refine List.filter_congr fun outlet member => ?_
  have place_eq := FileSystem.walk_eq_ok (sound.leads outlet member).walks
  have same : Path.ofPoints outlet.file = FileSystem.resolved path ↔
      outlet.place = FileSystem.plainPlace path := by
    constructor
    · intro same
      rw [place_eq, same, FileSystem.plainPlace_resolved]
    · exact fun same => sound.known outlet member path asked same.symm
  rw [Bool.eq_iff_iff, bne_iff_ne, bne_iff_ne, Ne, Ne, same]

/-- Nothing is closed for a path whose place has no outlet. -/
theorem close_of_notMem (sound : logging.Sound paths) (asked : path ∈ paths)
    (absent : FileSystem.plainPlace path ∉ logging.outlets.places) :
    logging.outlets.close path = logging.outlets := by
  have kept : (logging.outlets.close path).handlers = logging.outlets.handlers := by
    rw [sound.handlers_close asked]
    refine List.filter_eq_self.mpr fun outlet member => bne_iff_ne.mpr fun same => absent ?_
    exact same ▸ List.mem_map_of_mem member
  change { logging.outlets with handlers := (logging.outlets.close path).handlers } = _
  rw [kept]

/-- A path whose outlet is closed gets a new one. -/
theorem reopen (sound : logging.Sound paths) (alike : FileSystem.SpelledAlike paths)
    (asked : path ∈ paths) {file : CodePoints}
    (named : Path.ofPoints file = FileSystem.resolved path)
    (grows : logging.files.Grows after.files)
    (leads : after.files.Leads (FileSystem.resolved path) (FileSystem.plainPlace path))
    (handlers : after.outlets.handlers =
      (logging.outlets.close path).handlers ++ [⟨file, FileSystem.plainPlace path⟩]) :
    after.Sound paths ∧ ∀ place, place ∈ after.outlets.places ↔
      place ∈ logging.outlets.places ∨ FileSystem.plainPlace path = place := by
  rw [sound.handlers_close asked] at handlers
  have places : after.outlets.places =
      logging.outlets.places.filter (· != FileSystem.plainPlace path) ++
        [FileSystem.plainPlace path] := by
    rw [LogOutlets.places, handlers, List.map_append, LogOutlets.places, List.filter_map]
    rfl
  have cases_of_mem {outlet : LogOutlet} (member : outlet ∈ after.outlets.handlers) :
      outlet ∈ logging.outlets.handlers ∨ outlet = ⟨file, FileSystem.plainPlace path⟩ := by
    rw [handlers] at member
    exact (List.mem_append.mp member).imp (fun kept => (List.mem_filter.mp kept).1)
      List.mem_singleton.mp
  constructor
  · constructor
    case distinct =>
      rw [places]
      refine List.nodup_append.mpr ⟨sound.distinct.filter _, List.pairwise_singleton _ _, ?_⟩
      intro place kept other last
      rw [List.mem_singleton.mp last]
      exact bne_iff_ne.mp (List.mem_filter.mp kept).2
    case leads =>
      intro outlet member
      rcases cases_of_mem member with kept | rfl
      · exact (sound.leads outlet kept).grow grows
      · exact named.symm ▸ leads
    case known =>
      intro outlet member
      rcases cases_of_mem member with kept | rfl
      · exact sound.known outlet kept
      · exact fun other asked' same => named.trans (alike path asked other asked' same.symm)
  · intro place
    rw [places, List.mem_append, List.mem_filter, List.mem_singleton, bne_iff_ne]
    by_cases same : place = FileSystem.plainPlace path
    · simp [same]
    · simp [same, Ne.symm same]

end Logging.Sound

namespace LogFile

/-! ## The steps of setting up a file -/

theorem perform_makeParents (path : Path) (before : Scene (Logging δ)) :
    (makeParents path).perform before =
      match before.world.files.makeDirectories path.parent with
      | .error trouble => (.error (trouble.fault path.parent.points), before)
      | .ok files => (.ok (), ⟨⟨files, before.world.outlets⟩, before.journal⟩) := by
  rw [makeParents, perform_bind, perform_world]
  dsimp only
  cases before.world.files.makeDirectories path.parent <;> rfl

theorem perform_setLevel (level : Value) (before : Scene (Logging δ)) :
    (setLevel level).perform before =
      match rankOf level with
      | .error fault => (.error fault, before)
      | .ok rank => (.ok (), ⟨⟨before.world.files,
          { before.world.outlets with level := keptLevel level rank }⟩,
          { before.journal with threshold := Journal.thresholdOf rank }⟩) := by
  rw [setLevel]
  cases rankOf level <;> rfl

theorem perform_openOutlet (path : Path) (before : Scene (Logging δ)) :
    (openOutlet path).perform before =
      match before.world.files.openForAppend
          (.ofPoints (FileSystem.absolutePoints path.points)) with
      | .error trouble => (.error (trouble.fault (FileSystem.absolutePoints path.points)),
          ⟨⟨before.world.files, before.world.outlets.close path⟩, before.journal⟩)
      | .ok (place, files) => (.ok (), ⟨⟨files, (before.world.outlets.close path).add
          ⟨FileSystem.absolutePoints path.points, place⟩⟩, before.journal⟩) := by
  rw [openOutlet, perform_bind, perform_change]
  dsimp only
  rw [perform_bind, perform_world]
  dsimp only
  cases before.world.files.openForAppend (.ofPoints (FileSystem.absolutePoints path.points)) <;> rfl

/-- What goes before the opening of a file: only directories are made, the outlets stay, and a level
that has no rank changes none. -/
structure Prepares (level : Value) (before after : Scene (Logging δ)) : Prop where
  extend : before.world.files.Extends after.world.files
  handlers : after.world.outlets.handlers = before.world.outlets.handlers
  unranked : ∀ fault, rankOf level = .error fault →
    after.world.outlets = before.world.outlets ∧ after.journal = before.journal

theorem Prepares.refl (level : Value) (scene : Scene (Logging δ)) : Prepares level scene scene :=
  ⟨.refl _, rfl, fun _ _ => ⟨rfl, rfl⟩⟩

/-- Directories are made first, and the level is set if they could be. -/
theorem prepare (path : Path) (level : Value) (before : Scene (Logging δ)) :
    ∃ after, Prepares level before after ∧
      ((∃ fault, ∀ next : Action (Logging δ) Unit,
          (do makeParents path; setLevel level; next).perform before = (.error fault, after)) ∨
        (∃ rank, rankOf level = .ok rank) ∧ ∀ next : Action (Logging δ) Unit,
          (do makeParents path; setLevel level; next).perform before = next.perform after) := by
  simp only [perform_bind, perform_makeParents]
  cases made : before.world.files.makeDirectories path.parent with
  | error trouble => exact ⟨before, .refl level before, .inl ⟨_, fun _ => rfl⟩⟩
  | ok files =>
      have extend := FileSystem.makeDirectories_extends made
      dsimp only
      rw [perform_setLevel]
      cases ranked : rankOf level with
      | error fault =>
          refine ⟨⟨⟨files, before.world.outlets⟩, before.journal⟩, ?_, .inl ⟨fault, fun _ => rfl⟩⟩
          exact ⟨extend, rfl, fun _ _ => ⟨rfl, rfl⟩⟩
      | ok rank =>
          refine ⟨⟨⟨files, { before.world.outlets with level := keptLevel level rank }⟩,
            { before.journal with threshold := Journal.thresholdOf rank }⟩, ?_,
            .inr ⟨⟨rank, rfl⟩, fun _ => rfl⟩⟩
          exact ⟨extend, rfl, fun _ same => nomatch ranked.symm.trans same⟩

/-- A file gets an outlet when it can be opened. -/
theorem openOutlet_ok_iff {before : Scene (Logging δ)} {path : Path}
    (wellFormed : path.WellFormed) (few : path.slashes ≠ 2) :
    ((openOutlet path).perform before).1 = .ok () ↔
      ∃ opened, before.world.files.openForAppend (FileSystem.resolved path) = .ok opened := by
  rw [perform_openOutlet, (FileSystem.ofPoints_absolutePoints_iff wellFormed).mpr few]
  cases before.world.files.openForAppend (FileSystem.resolved path) with
  | error trouble => exact ⟨nofun, nofun⟩
  | ok found => exact iff_of_true rfl ⟨found, rfl⟩

/-- A file that has an outlet can be opened again, so no outlet is closed in vain. -/
theorem openOutlet_ends {before : Scene (Logging δ)} {paths : List Path}
    (sound : before.world.Sound paths) {path : Path} (asked : path ∈ paths)
    (wellFormed : path.WellFormed) (few : path.slashes ≠ 2) :
    (∃ fault, (openOutlet path).perform before = (.error fault, before)) ∨
      ∃ files, (openOutlet path).perform before =
          (.ok (), ⟨⟨files, (before.world.outlets.close path).add
            ⟨FileSystem.absolutePoints path.points, FileSystem.plainPlace path⟩⟩, before.journal⟩) ∧
        before.world.files.Extends files ∧
        files.Leads (FileSystem.resolved path) (FileSystem.plainPlace path) := by
  rw [perform_openOutlet, (FileSystem.ofPoints_absolutePoints_iff wellFormed).mpr few]
  cases opened : before.world.files.openForAppend (FileSystem.resolved path) with
  | ok found =>
      obtain ⟨place, files⟩ := found
      obtain ⟨extend, leads⟩ := FileSystem.openForAppend_eq_ok opened
      have place_eq : place = FileSystem.plainPlace path :=
        (FileSystem.walk_eq_ok leads.walks).trans (FileSystem.plainPlace_resolved path)
      subst place_eq
      exact .inr ⟨files, rfl, extend, leads⟩
  | error trouble =>
      have absent : FileSystem.plainPlace path ∉ before.world.outlets.places := by
        intro member
        obtain ⟨outlet, open', same⟩ := List.mem_map.mp member
        have again := (sound.leads outlet open').openForAppend
        rw [sound.known outlet open' path asked same.symm] at again
        cases opened.symm.trans again
      dsimp only
      rw [sound.close_of_notMem asked absent]
      exact .inl ⟨_, rfl⟩

/-! ## Setting up a file -/

/-- How the setting up of a file goes: it is refused before an outlet is closed or added, or the
outlet at the place of its path is closed and a new one added. -/
inductive SetUpCourse (path level : Value) (before : Scene (Logging δ)) :
    Except Fault Unit → Scene (Logging δ) → Prop
  | refused {fault : Fault} {after : Scene (Logging δ)} (prepares : Prepares level before after) :
      SetUpCourse path level before (.error fault) after
  | opened {target : Path} {file : CodePoints} {after : Scene (Logging δ)}
      (asked : path.toPath = .ok target) (ranked : ∃ rank, rankOf level = .ok rank)
      (extend : before.world.files.Extends after.world.files)
      (named : Path.ofPoints file = FileSystem.resolved target)
      (leads : after.world.files.Leads (FileSystem.resolved target) (FileSystem.plainPlace target))
      (handlers : after.world.outlets.handlers =
        (before.world.outlets.close target).handlers ++ [⟨file, FileSystem.plainPlace target⟩]) :
      SetUpCourse path level before (.ok ()) after

theorem perform_setUp_of_path {path : Value} {target : Path} (asked : path.toPath = .ok target)
    (level : Value) (before : Scene (Logging δ)) : (setUp path level).perform before =
      (do makeParents target; setLevel level; openOutlet target :
        Action (Logging δ) Unit).perform before := by
  rw [setUp, perform_bind, perform_ofExcept, asked]

theorem perform_setUp_of_error {path : Value} {fault : Fault} (refused : path.toPath = .error fault)
    (level : Value) (before : Scene (Logging δ)) :
    (setUp path level).perform before = (.error fault, before) := by
  rw [setUp, perform_bind, perform_ofExcept, refused]

/-- What a value is taken for can be written as a text. -/
theorem wellFormed_of_toPath {path : Value} {target : Path} (asked : path.toPath = .ok target) :
    target.WellFormed := by
  unfold Value.toPath at asked
  split at asked
  · cases asked
    exact Path.wellFormed_ofPoints _
  · cases asked

/-- Every setting up goes one of the two ways. -/
theorem setUp_course {path level : Value} {before after : Scene (Logging δ)} {paths : List Path}
    (sound : before.world.Sound paths)
    (plain : ∀ target, path.toPath = .ok target → target ∈ paths ∧ target.slashes ≠ 2)
    {outcome : Except Fault Unit}
    (performed : (setUp path level).perform before = (outcome, after)) :
    SetUpCourse path level before outcome after := by
  cases asked : path.toPath with
  | error fault =>
      cases performed.symm.trans (perform_setUp_of_error asked level before)
      exact .refused (.refl level before)
  | ok target =>
      rw [perform_setUp_of_path asked] at performed
      obtain ⟨middle, prepares, ⟨fault, refused⟩ | ⟨ranked, ready⟩⟩ := prepare target level before
      · cases performed.symm.trans (refused _)
        exact .refused prepares
      · rw [ready] at performed
        have sound' : middle.world.Sound paths := sound.grow prepares.extend.grows prepares.handlers
        obtain ⟨member, few⟩ := plain target asked
        have wellFormed := wellFormed_of_toPath asked
        rcases openOutlet_ends sound' member wellFormed few with
          ⟨fault, refused⟩ | ⟨files, opened, extend, leads⟩
        · cases performed.symm.trans refused
          exact .refused prepares
        · cases performed.symm.trans opened
          refine .opened asked ranked (prepares.extend.trans extend)
            ((FileSystem.ofPoints_absolutePoints_iff wellFormed).mpr few) leads ?_
          rw [LogOutlets.add, LogOutlets.close, LogOutlets.close, prepares.handlers]

/-! ## Writing a record -/

/-- The bytes of a record in a log file, where it is accepted. -/
def recordBytes (journal : Journal) (level : Level) (source message : CodePoints) : ByteArray :=
  if isLibrarySource source && journal.accepts level.rank then
    LogRecord.bytes ⟨level, source, message⟩
  else .empty

/-- What writing a record does to the outlets and to files. -/
structure Emits (level : Level) (source message : CodePoints) (before after : Scene (Logging δ)) :
    Prop where
  outlets : after.world.outlets = before.world.outlets
  grows : before.world.files.Grows after.world.files
  written : ∀ place content, before.world.files.entry? place = some (.file content) →
    after.world.files.entry? place = some (.file (content ++
      if place ∈ before.world.outlets.places then recordBytes before.journal level source message
      else .empty))

theorem perform_emit (level : Level) (source message : CodePoints) (before : Scene (Logging δ)) :
    (emit level source message).perform before =
      if isLibrarySource source && before.journal.accepts level.rank then
        (.ok (), ⟨⟨before.world.outlets.deliver [⟨level, source, message⟩] before.world.files,
          before.world.outlets⟩, before.journal.write ⟨level, source, message⟩⟩)
      else (.ok (), before) := by
  rw [emit, perform_bind]
  change (if _ then _ else _ : Action (Logging δ) Unit).perform before = _
  split <;> rfl

/-- A record is added to the file of every outlet once. -/
theorem emit_emits {before : Scene (Logging δ)} {paths : List Path}
    (sound : before.world.Sound paths) (level : Level) (source message : CodePoints) :
    ∃ after, (emit level source message).perform before = (.ok (), after) ∧
      Emits level source message before after := by
  rw [perform_emit]
  split
  next accepted =>
    refine ⟨_, rfl, rfl, FileSystem.appendAll_grows _ _ _, fun place content found => ?_⟩
    have delivered : ByteArray.empty ++ LogRecord.bytes ⟨level, source, message⟩ =
        recordBytes before.journal level source message := by
      rw [ByteArray.empty_append, recordBytes, if_pos accepted]
    rw [← delivered]
    exact FileSystem.entry?_appendAll sound.distinct found _
  next refused =>
    refine ⟨before, rfl, rfl, .refl _, fun place content found => ?_⟩
    rw [recordBytes, if_neg refused, ite_self, ByteArray.append_empty]
    exact found

/-! ## Calls one after the other -/

/-- What can be asked of log files. -/
inductive Call where
  | setUp (path level : Value)
  | emit (level : Level) (source message : CodePoints)

namespace Call

/-- What a call does. -/
def action : Call → Action (Logging δ) Unit
  | .setUp path level => LogFile.setUp path level
  | .emit level source message => LogFile.emit level source message

/-- The path of the file that a call asks for. -/
def path? : Call → Option Path
  | .setUp path _ => path.toPath.toOption
  | .emit _ _ _ => none

/-- Whether a call names no path with two slashes at its root; relative paths have none. -/
def isPlain (call : Call) : Bool := call.path?.all fun path => path.slashes != 2

/-- What a call needs to succeed: for a file, its directories, a level that has a rank, and that the
file can be opened. -/
def IsPossible (before : Scene (Logging δ)) : Call → Prop
  | .setUp path level =>
    ∃ target, path.toPath = .ok target ∧
      ∃ files, before.world.files.makeDirectories target.parent = .ok files ∧
        (∃ rank, rankOf level = .ok rank) ∧
          ∃ opened, files.openForAppend (FileSystem.resolved target) = .ok opened
  | .emit _ _ _ => True

end Call

/-- One call: the scene that it found, how it ended, and the scene that it left. -/
structure Event (δ : Type) where
  before : Scene (Logging δ)
  call : Call
  outcome : Except Fault Unit
  after : Scene (Logging δ)

/-- The event of a call in a scene. -/
def Call.event (call : Call) (scene : Scene (Logging δ)) : Event δ :=
  let (outcome, after) := call.action.perform scene
  ⟨scene, call, outcome, after⟩

/-- The events of calls made one after the other, and the scene after all of them. -/
def run : List Call → Scene (Logging δ) → List (Event δ) × Scene (Logging δ)
  | [], scene => ([], scene)
  | call :: rest, scene =>
    let event := call.event scene
    let (others, last) := run rest event.after
    (event :: others, last)

namespace Event

/-- That a call has set up the file at a place. -/
def Opens (event : Event δ) (place : Place) : Prop :=
  ∃ path, event.call.path? = some path ∧ event.outcome = .ok () ∧
    FileSystem.plainPlace path = place

/-- The bytes that a call adds to the file at a place. -/
def added (event : Event δ) (place : Place) : ByteArray :=
  match event.call with
  | .setUp _ _ => .empty
  | .emit level source message =>
    if place ∈ event.before.world.outlets.places then
      recordBytes event.before.journal level source message
    else .empty

/-- What one call does to outlets and to files: it succeeds if it can, no place has two outlets and
all of them are those of files, a call that fails leaves the outlets alone, a level that has no rank
is refused and leaves the levels alone too, and bytes are added where an outlet is and nowhere
else. -/
structure Settles (event : Event δ) : Prop where
  succeeds : event.outcome = .ok () ↔ event.call.IsPossible event.before
  distinct : event.after.world.outlets.places.Nodup
  isFile : ∀ place ∈ event.after.world.outlets.places,
    ∃ entry, event.after.world.files.entry? place = some entry ∧ entry.IsFile
  failed : ∀ fault, event.outcome = .error fault →
    event.after.world.outlets.handlers = event.before.world.outlets.handlers
  unranked : ∀ path level fault, event.call = .setUp path level → rankOf level = .error fault →
    (∃ fault', event.outcome = .error fault') ∧
      event.after.world.outlets = event.before.world.outlets ∧
      event.after.journal = event.before.journal
  created : ∀ place ∈ event.after.world.outlets.places,
    event.before.world.files.entry? place = none →
      event.after.world.files.entry? place = some (.file .empty)
  written : ∀ place content, event.before.world.files.entry? place = some (.file content) →
    event.after.world.files.entry? place = some (.file (content ++ event.added place))

end Event

section Steps

variable {before after : Scene (Logging δ)} {path level : Value} {outcome : Except Fault Unit}
  {paths : List Path}

/-- A file is set up when each of the three steps can be taken. -/
theorem setUp_ok_iff (few : ∀ target, path.toPath = .ok target → target.slashes ≠ 2) :
    ((setUp path level).perform before).1 = .ok () ↔ (Call.setUp path level).IsPossible before := by
  rw [Call.IsPossible]
  cases asked : path.toPath with
  | error fault =>
      rw [perform_setUp_of_error asked]
      exact ⟨nofun, nofun⟩
  | ok target =>
      simp only [Except.ok.injEq, exists_eq_left']
      rw [perform_setUp_of_path asked, perform_bind, perform_makeParents]
      cases before.world.files.makeDirectories target.parent with
      | error trouble => exact ⟨nofun, nofun⟩
      | ok files =>
          dsimp only
          rw [perform_bind, perform_setLevel]
          cases rankOf level with
          | error fault => exact ⟨nofun, nofun⟩
          | ok rank =>
              refine (openOutlet_ok_iff (wellFormed_of_toPath asked)
                (few target asked)).trans ⟨?_, ?_⟩
              · exact fun opened => ⟨files, rfl, ⟨rank, rfl⟩, opened⟩
              · rintro ⟨_, ⟨⟩, _, opened⟩
                exact opened

/-- A call that only adds directories and an empty file settles, whatever it does to sound
outlets. -/
theorem Event.settles_of_extends
    (succeeds : outcome = .ok () ↔ (Call.setUp path level).IsPossible before)
    (extend : before.world.files.Extends after.world.files)
    (sound : after.world.Sound paths)
    (failed : ∀ fault, outcome = .error fault →
      after.world.outlets.handlers = before.world.outlets.handlers)
    (unranked : ∀ fault, rankOf level = .error fault → (∃ fault', outcome = .error fault') ∧
      after.world.outlets = before.world.outlets ∧ after.journal = before.journal) :
    (Event.mk before (.setUp path level) outcome after).Settles where
  succeeds := succeeds
  distinct := sound.distinct
  isFile place member := sound.isFile member
  failed := failed
  unranked := by
    rintro _ _ fault ⟨⟩ refused
    exact unranked fault refused
  created place member absent := extend.entry?_eq_empty absent (sound.isFile member)
  written place content found := by
    change after.world.files.entry? place = some (.file (content ++ .empty))
    rw [ByteArray.append_empty]
    exact extend.kept place _ found

theorem SetUpCourse.settles (course : SetUpCourse path level before outcome after)
    (sound : before.world.Sound paths) (alike : FileSystem.SpelledAlike paths)
    (member : ∀ target, path.toPath = .ok target → target ∈ paths)
    (succeeds : outcome = .ok () ↔ (Call.setUp path level).IsPossible before) :
    (Event.mk before (.setUp path level) outcome after).Settles ∧ after.world.Sound paths ∧
      ∀ place, place ∈ after.world.outlets.places ↔ place ∈ before.world.outlets.places ∨
        (Event.mk before (.setUp path level) outcome after).Opens place := by
  cases course with
  | @refused fault _ prepares =>
      have sound' : after.world.Sound paths := sound.grow prepares.extend.grows prepares.handlers
      refine ⟨Event.settles_of_extends succeeds prepares.extend sound' ?_ ?_, sound', ?_⟩
      · exact fun _ _ => prepares.handlers
      · exact fun fault refused => ⟨⟨_, rfl⟩, prepares.unranked fault refused⟩
      · intro place
        have closed : ¬ (Event.mk before (.setUp path level) (.error fault) after).Opens place :=
          fun ⟨_, _, succeeded, _⟩ => nomatch succeeded
        rw [LogOutlets.places, prepares.handlers, or_iff_left closed]
        rfl
  | @opened target file _ asked ranked extend named leads handlers =>
      obtain ⟨rank, ranked⟩ := ranked
      obtain ⟨sound', places⟩ :=
        sound.reopen alike (member target asked) named extend.grows leads handlers
      have path_eq : (Call.setUp path level).path? = some target := congrArg Except.toOption asked
      refine ⟨Event.settles_of_extends succeeds extend sound' nofun ?_, sound', ?_⟩
      · exact fun fault refused => nomatch ranked.symm.trans refused
      · intro place
        rw [places]
        refine or_congr_right ⟨fun same => ⟨_, path_eq, rfl, same⟩, ?_⟩
        rintro ⟨other, same, _, place_eq⟩
        cases path_eq.symm.trans same
        exact place_eq

theorem Emits.settles {level : Level} {source message : CodePoints}
    (emits : Emits level source message before after) (sound : before.world.Sound paths) :
    (Event.mk before (.emit level source message) (.ok ()) after).Settles ∧
      after.world.Sound paths ∧
      ∀ place, place ∈ after.world.outlets.places ↔ place ∈ before.world.outlets.places ∨
        (Event.mk before (.emit level source message) (.ok ()) after).Opens place := by
  have sound' : after.world.Sound paths :=
    sound.grow emits.grows (congrArg LogOutlets.handlers emits.outlets)
  refine ⟨?_, sound', ?_⟩
  · constructor
    case succeeds => exact iff_of_true rfl trivial
    case distinct => exact sound'.distinct
    case isFile => exact fun place member => sound'.isFile member
    case failed => nofun
    case unranked => nofun
    case created =>
      intro place member absent
      obtain ⟨entry, found, _⟩ := sound.isFile (emits.outlets ▸ member)
      cases absent.symm.trans found
    case written => exact emits.written
  · intro place
    have closed : ¬ (Event.mk before (.emit level source message) (.ok ()) after).Opens place :=
      fun ⟨_, same, _⟩ => nomatch same
    rw [emits.outlets, or_iff_left closed]

end Steps

/-- **One call settles, and its place is added to those that have an outlet if it has set up
one.** -/
theorem Call.event_settles (call : Call) {scene : Scene (Logging δ)} {paths : List Path}
    (sound : scene.world.Sound paths) (alike : FileSystem.SpelledAlike paths)
    (member : ∀ path, call.path? = some path → path ∈ paths) (plain : call.isPlain = true) :
    (call.event scene).Settles ∧ (call.event scene).after.world.Sound paths ∧
      ∀ place, place ∈ (call.event scene).after.world.outlets.places ↔
        place ∈ scene.world.outlets.places ∨ (call.event scene).Opens place := by
  cases call with
  | setUp path level =>
      have member' (target : Path) (asked : path.toPath = .ok target) : target ∈ paths :=
        member target (congrArg Except.toOption asked)
      have few (target : Path) (asked : path.toPath = .ok target) : target.slashes ≠ 2 := by
        rw [isPlain, path?, asked] at plain
        exact bne_iff_ne.mp plain
      refine (setUp_course sound (fun target asked => ⟨member' target asked, few target asked⟩)
        rfl).settles sound alike member' (setUp_ok_iff few)
  | emit level source message =>
      obtain ⟨after, performed, emits⟩ := emit_emits sound level source message
      have event_eq : (Call.emit level source message).event scene =
          ⟨scene, .emit level source message, .ok (), after⟩ := by
        rw [Call.event, Call.action, performed]
      rw [event_eq]
      exact emits.settles sound

/-! ## Runs -/

section Runs

variable {calls : List Call} {start : Scene (Logging δ)}

theorem paths_of_cons {call : Call} {paths : List Path}
    (members : (call :: calls).filterMap Call.path? ⊆ paths) :
    (∀ path, call.path? = some path → path ∈ paths) ∧ calls.filterMap Call.path? ⊆ paths := by
  constructor
  · exact fun path asked => members (List.mem_filterMap.mpr ⟨call, List.mem_cons_self, asked⟩)
  · exact fun path member => members (List.mem_filterMap.mpr
      ((List.mem_filterMap.mp member).imp fun _ found => ⟨List.mem_cons_of_mem _ found.1, found.2⟩))

/-- An event of a run is that of a call in the scene after the calls before it. -/
theorem exists_of_run_eq {earlier later : List (Event δ)} {event : Event δ}
    (events : (run calls start).1 = earlier ++ event :: later) :
    ∃ before call after, calls = before ++ call :: after ∧ (run before start).1 = earlier ∧
      call.event (run before start).2 = event ∧
        run (call :: after) (run before start).2 = (event :: later, (run calls start).2) := by
  induction calls generalizing start earlier with
  | nil => cases earlier <;> cases events
  | cons call rest ih =>
      cases earlier with
      | nil =>
          cases events
          exact ⟨[], call, rest, rfl, rfl, rfl, rfl⟩
      | cons first earlier =>
          obtain ⟨rfl, others⟩ := List.cons.inj events
          obtain ⟨before, next, after, rfl, earlier_eq, event_eq, run_eq⟩ := ih others
          exact ⟨call :: before, next, after, rfl, congrArg (_ :: ·) earlier_eq, event_eq, run_eq⟩

theorem map_call_run (calls : List Call) (start : Scene (Logging δ)) :
    (run calls start).1.map Event.call = calls := by
  induction calls generalizing start with
  | nil => rfl
  | cons call rest ih => exact congrArg (call :: ·) (ih _)

variable {paths : List Path}

/-- After a run there are outlets where there were some before and where the run has set up some. -/
theorem run_sound (sound : start.world.Sound paths) (alike : FileSystem.SpelledAlike paths)
    (members : calls.filterMap Call.path? ⊆ paths) (plain : ∀ call ∈ calls, call.isPlain = true) :
    (run calls start).2.world.Sound paths ∧
      ∀ place, place ∈ (run calls start).2.world.outlets.places ↔
        place ∈ start.world.outlets.places ∨ ∃ event ∈ (run calls start).1, event.Opens place := by
  induction calls generalizing start with
  | nil => exact ⟨sound, fun place => by simp [run]⟩
  | cons call rest ih =>
      obtain ⟨here, others⟩ := List.forall_mem_cons.mp plain
      obtain ⟨member, members'⟩ := paths_of_cons members
      obtain ⟨_, sound', places⟩ := call.event_settles sound alike member here
      obtain ⟨sound'', places'⟩ := ih sound' members' others
      refine ⟨sound'', fun place => (places' place).trans ?_⟩
      rw [places, or_assoc]
      simp only [run, List.mem_cons, or_and_right, exists_or, exists_eq_left]

/-- A file of bytes gets longer by what each call of a run adds to it. -/
theorem entry?_run (sound : start.world.Sound paths) (alike : FileSystem.SpelledAlike paths)
    (members : calls.filterMap Call.path? ⊆ paths) (plain : ∀ call ∈ calls, call.isPlain = true)
    {place : Place} {content : ByteArray}
    (found : start.world.files.entry? place = some (.file content)) :
    FileSystem.entry? (run calls start).2.world.files place = some (.file
      ((run calls start).1.foldl (fun bytes event => bytes ++ event.added place) content)) := by
  induction calls generalizing start content with
  | nil => exact found
  | cons call rest ih =>
      obtain ⟨here, others⟩ := List.forall_mem_cons.mp plain
      obtain ⟨member, members'⟩ := paths_of_cons members
      obtain ⟨settles, sound', _⟩ := call.event_settles sound alike member here
      exact ih sound' members' others (settles.written place content found)

end Runs

/-- Calls whose paths are strings spell every file in one way, but for dots and slashes. -/
theorem spelledAlike_of_strings {calls : List Call}
    (strings : ∀ points level, Call.setUp (.illFormed points) level ∉ calls) :
    FileSystem.SpelledAlike (calls.filterMap Call.path?) := by
  refine FileSystem.spelledAlike_of_namesFiles fun path member => ?_
  obtain ⟨call, inCalls, asked⟩ := List.mem_filterMap.mp member
  match call, asked with
  | .setUp (.text text) _, rfl => exact Path.namesFiles_ofText text
  | .setUp (.illFormed points) level, _ => exact absurd inCalls (strings points level)

/-- **Every file that was set up has one outlet, and no other file has any.**  Whatever calls are
made one after the other, with relative paths or others that do not start with two slashes, and with
one spelling of each file, but for dots and slashes, and however they end: after each of them the
places of the outlets are those that the successful ones have set up so far, each of them once; a
call that fails leaves the outlets alone, and the levels too if it was refused for its level; and
what a file held at any time is followed by the bytes of the records that were accepted since while
it had an outlet, each of them once. -/
theorem run_outlets (calls : List Call) (start : Scene (Logging δ))
    (fresh : start.world.outlets.handlers = []) (plain : ∀ call ∈ calls, call.isPlain = true)
    (alike : FileSystem.SpelledAlike (calls.filterMap Call.path?)) :
    (run calls start).1.map Event.call = calls ∧
      ∀ earlier event later, (run calls start).1 = earlier ++ event :: later →
        event.Settles ∧
          (∀ place, place ∈ event.after.world.outlets.places ↔
            ∃ made ∈ earlier ++ [event], made.Opens place) ∧
          ∀ place content, event.before.world.files.entry? place = some (.file content) →
            FileSystem.entry? (run calls start).2.world.files place = some (.file
              ((event :: later).foldl (fun bytes event => bytes ++ event.added place) content)) := by
  have none : start.world.outlets.places = [] := by rw [LogOutlets.places, fresh]; rfl
  have sound : start.world.Sound (calls.filterMap Call.path?) :=
    ⟨none ▸ .nil, fresh ▸ nofun, fresh ▸ nofun⟩
  refine ⟨map_call_run calls start, fun earlier event later events => ?_⟩
  obtain ⟨before, call, after, calls_eq, rfl, rfl, run_eq⟩ := exists_of_run_eq events
  obtain ⟨plain, plain'⟩ := List.forall_mem_append.mp (calls_eq ▸ plain)
  have members : before.filterMap Call.path? ⊆ calls.filterMap Call.path? ∧
      (call :: after).filterMap Call.path? ⊆ calls.filterMap Call.path? := by
    rw [calls_eq, List.filterMap_append]
    exact ⟨List.subset_append_left _ _, List.subset_append_right _ _⟩
  obtain ⟨sound', places⟩ := run_sound sound alike members.1 plain
  obtain ⟨settles, _, places'⟩ := call.event_settles sound' alike (paths_of_cons members.2).1
    (plain' call List.mem_cons_self)
  refine ⟨settles, fun place => ?_, fun place content found => ?_⟩
  · rw [places', places, none, or_iff_right List.not_mem_nil]
    simp only [List.mem_append, List.mem_singleton, or_and_right, exists_or, exists_eq_left]
  · have longer := entry?_run sound' alike members.2 plain' found
    rwa [run_eq] at longer

/-- A scene without log files, in an empty working directory. -/
def blank : Scene (Logging Empty) := ⟨⟨.empty, {}⟩, .empty⟩

/-- A file in the working directory. -/
def logPlace : Place := FileSystem.workingPlace ++ [.ofString "c.log"]

/-- One file by three paths, once with a level that has no rank, and a directory that the first call
has made; then a record. -/
def tangle : List Call :=
  [.setUp (.text "a/../c.log") (.text "Info"), .setUp (.text "./c.log") (.text "verbose"),
    .setUp (.text "a") (.integer 20), .setUp (.text "b/.././c.log") (.text "debug"),
    .emit .info (.ofString "tierchat.engine") (.ofString "ready")]

/-- The file has one outlet after each call, of which the second and the third fail, and the record
is in it once. -/
theorem tangle_outlets :
    ((run tangle blank).1.map fun event =>
        (event.outcome.isOk, event.after.world.outlets.places.length)) =
      [(true, 1), (false, 1), (false, 1), (true, 1), (true, 1)] ∧
      FileSystem.entry? (run tangle blank).2.world.files logPlace = some (.file
        (LogRecord.line .info "tierchat.engine" "ready").toUTF8) := by
  obtain ⟨_, laws⟩ := run_outlets tangle blank rfl (by decide +kernel) (by decide +kernel)
  obtain ⟨settles, _⟩ := laws [] _ _ rfl
  obtain ⟨_, _, kept⟩ := laws [_] _ _ rfl
  have created := settles.created logPlace (by decide +kernel) (by decide +kernel)
  refine ⟨by decide +kernel, (kept _ _ created).trans ?_⟩
  refine congrArg (fun bytes => some (FileEntry.file bytes)) ?_
  decide +kernel

/-- A log file, and a record with a surrogate in the name of a session. -/
def muted : List Call :=
  [.setUp (.text "c.log") (.integer 20), .emit .warning (.ofString "tierchat.conversation")
    (CodePoints.ofString "Chat turn failed for session '" ++ 0xd800 ::
      CodePoints.ofString "'; state left unchanged")]

/-- A file by its name, and by the name in which escapes stand for the letter. -/
def respelled : List Call :=
  [.setUp (.illFormed [0xdcc3, 0xdca9]) (.integer 20), .setUp (.text "é") (.integer 20)]

/-- Surrogates lead astray.  An accepted record with a surrogate in it leaves the file of the outlet
as it was, and a file that is also asked for by escapes gets another outlet. -/
theorem surrogates_stray :
    (∃ event ∈ (run muted blank).1, ∃ level source message,
      event.call = .emit level source message ∧
        isLibrarySource source = true ∧
        event.before.journal.accepts level.rank = true ∧
        event.before.world.outlets.places = [logPlace] ∧
        (event.after.world.files.readBytes (.ofText "c.log")).toOption = some .empty) ∧
    (run respelled blank).2.world.outlets.places =
      [FileSystem.workingPlace ++ [.ofString "é"], FileSystem.workingPlace ++ [.ofString "é"]] := by
  constructor
  · refine ⟨_, .tail _ (.head _), _, _, _, rfl, ?_, ?_, ?_, ?_⟩ <;> decide +kernel
  · decide +kernel

end LogFile

end RecallChat
