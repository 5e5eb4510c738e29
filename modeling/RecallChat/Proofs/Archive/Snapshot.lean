import RecallChat.Proofs.Chat.Registering
import RecallChat.Proofs.Floating.Widening
import RecallChat.Archive.Tables
import Mathlib.Data.String.Basic

/-!
# Snapshots

The snapshot of a state has a row for each session, each message and each memory
(`ChatState.snapshot`).  Reading it back gives the records of the sessions in the order of their
identifiers, each with its own messages in their old order (`sessionRecords_snapshot`), and the
entries of the memory in their old order (`extend_memoryRecords`).

That needs a state whose texts a text column keeps (`Column.Keeps`) and whose windows fit in a
column of integers (`ChatState.Storable`).
-/

set_option autoImplicit false

namespace RecallChat

/-! ## What columns keep -/

/-- That a text column gives a value back as it was put in. -/
def Column.Keeps (value : Value) : Prop :=
  ∃ text, Column.text? value = .ok (some text) ∧ Value.text text = value

/-- A text without surrogates is kept. -/
theorem Column.keeps_text (text : String) : Column.Keeps (.text text) := ⟨text, rfl, rfl⟩

/-- The text of a value; one that is no text has an empty one. -/
def Value.asText (value : Value) : String := value.string?.getD ""

theorem Column.Keeps.text_asText {value : Value} (kept : Column.Keeps value) :
    .text value.asText = value := by
  obtain ⟨text, _, rfl⟩ := kept
  rfl

theorem Column.Keeps.text?_eq {value : Value} (kept : Column.Keeps value) :
    Column.text? value = .ok (some value.asText) := by
  obtain ⟨text, _, rfl⟩ := kept
  rfl

/-- That a state can be stored: its texts are kept, and its windows fit in thirty-two bits. -/
structure ChatState.Storable (chat : ChatState) : Prop where
  sound : chat.registry.Sound
  ids : ∀ session ∈ chat.registry.sessions, Column.Keeps session.id
  windows : ∀ session ∈ chat.registry.sessions, session.window.size < 2 ^ 31
  contents : ∀ session ∈ chat.registry.sessions, ∀ message ∈ session.messages,
    Column.Keeps message.content
  texts : ∀ entry ∈ chat.memory.entries, Column.Keeps entry.text

/-! ## Rows -/

namespace Session

/-- The identifier of a session as a text. -/
def name (session : Session) : String := session.id.asText

/-- The row of a session. -/
def row (session : Session) : SessionRow := ⟨session.name, session.window.size⟩

/-- The row of a session's message at a position. -/
def messageRow (session : Session) (placed : Message × Nat) : MessageRow :=
  ⟨session.name, placed.2, placed.1.role.name, placed.1.content.asText⟩

/-- The rows of a session's messages. -/
def messageRows (session : Session) : List MessageRow :=
  session.messages.zipIdx.map session.messageRow

end Session

/-- The row of a memory at a position. -/
def MemoryEntry.row (placed : MemoryEntry × Nat) : MemoryRow :=
  ⟨placed.2, placed.1.text.asText, some (placed.1.vector.map some)⟩

/-- The rows of a state. -/
def ChatState.snapshot (chat : ChatState) : Tables where
  sessions := chat.registry.sessions.map Session.row
  messages := chat.registry.sessions.flatMap Session.messageRows
  memories := chat.memory.entries.zipIdx.map MemoryEntry.row

theorem ChatState.Storable.distinct {chat : ChatState} (storable : chat.Storable) :
    (chat.registry.sessions.map Session.name).Nodup := by
  have texts : (chat.registry.sessions.map Session.name).map Value.text =
      chat.registry.sessions.map Session.id := by
    rw [List.map_map]
    exact List.map_congr_left fun session member => (storable.ids session member).text_asText
  exact List.Nodup.of_map Value.text (texts ▸ storable.sound.distinct)

/-! ## Lists with positions -/

/-- What does not depend on the positions can be had without them. -/
theorem map_zipIdx_eq {α β : Type} {items : List α} {f : α × Nat → β} {g : α → β}
    (each : ∀ placed ∈ items.zipIdx, f placed = g placed.1) : items.zipIdx.map f = items.map g := by
  rw [List.map_congr_left each]
  change items.zipIdx.map (g ∘ Prod.fst) = items.map g
  rw [← List.map_map, List.zipIdx_map_fst]

/-- Positions follow the order of a list. -/
theorem pairwise_zipIdx {α : Type} (items : List α) :
    items.zipIdx.Pairwise fun a b => a.2 ≤ b.2 := by
  have positions : (items.zipIdx.map Prod.snd).Pairwise (· ≤ ·) := by
    rw [List.zipIdx_map_snd]
    exact List.pairwise_le_range' 1
  exact List.pairwise_map.mp positions

theorem exists_mem_zipIdx {α : Type} {items : List α} {item : α} (member : item ∈ items) :
    ∃ position, (item, position) ∈ items.zipIdx := by
  obtain ⟨position, at'⟩ := List.mem_iff_getElem?.mp member
  exact ⟨position, List.mk_mem_zipIdx_iff_getElem?.mpr at'⟩

/-- Items sorted by a key that no two of them share are in its strict order. -/
theorem pairwise_lt_mergeSort {α β : Type} [LinearOrder β] (key : α → β) {ranks : α → α → Bool}
    (ranks_iff : ∀ a b, ranks a b = true ↔ key a ≤ key b) {items : List α}
    (distinct : (items.map key).Nodup) : ((items.mergeSort ranks).map key).Pairwise (· < ·) := by
  have sorted : ((items.mergeSort ranks).map key).Pairwise (· ≤ ·) := by
    refine List.pairwise_map.mpr
      (List.Pairwise.imp (ranks_iff _ _).mp (List.pairwise_mergeSort ?_ ?_ items))
    · intro a b c first second
      exact (ranks_iff a c).mpr (((ranks_iff a b).mp first).trans ((ranks_iff b c).mp second))
    · intro a b
      rw [Bool.or_eq_true, ranks_iff, ranks_iff]
      exact le_total (key a) (key b)
  have apart : ((items.mergeSort ranks).map key).Nodup :=
    ((List.mergeSort_perm _ _).map key).nodup_iff.mpr distinct
  exact (sorted.and apart).imp fun both => lt_of_le_of_ne both.1 both.2

/-! ## Messages of a session -/

/-- Whether a message may stand before another. -/
def MessageRow.ranksBefore (a b : MessageRow) : Bool :=
  decide (a.sessionId < b.sessionId) ||
    (a.sessionId == b.sessionId && decide (a.position ≤ b.position))

namespace MessageRow

theorem ranksBefore_iff {a b : MessageRow} :
    a.ranksBefore b = true ↔
      a.sessionId < b.sessionId ∨ a.sessionId = b.sessionId ∧ a.position ≤ b.position := by
  simp [ranksBefore]

theorem ranksBefore_trans (a b c : MessageRow) (first : a.ranksBefore b = true)
    (second : b.ranksBefore c = true) : a.ranksBefore c = true := by
  rw [ranksBefore_iff] at first second ⊢
  rcases first with below | ⟨same, le⟩
  · rcases second with below' | ⟨same', _⟩
    · exact .inl (below.trans below')
    · exact .inl (same' ▸ below)
  · rcases second with below' | ⟨same', le'⟩
    · exact .inl (same ▸ below')
    · exact .inr ⟨same.trans same', le.trans le'⟩

theorem ranksBefore_total (a b : MessageRow) :
    (a.ranksBefore b || b.ranksBefore a) = true := by
  rw [Bool.or_eq_true, ranksBefore_iff, ranksBefore_iff]
  rcases lt_trichotomy a.sessionId b.sessionId with below | same | above
  · exact .inl (.inl below)
  · rcases Int.le_total a.position b.position with le | le
    · exact .inl (.inr ⟨same, le⟩)
    · exact .inr (.inr ⟨same.symm, le⟩)
  · exact .inr (.inl above)

end MessageRow

namespace Session

theorem sessionId_of_mem_messageRows {session : Session} {message : MessageRow}
    (member : message ∈ session.messageRows) : message.sessionId = session.name := by
  obtain ⟨placed, _, rfl⟩ := List.mem_map.mp member
  rfl

/-- The messages of a session stand in the order in which messages are read back. -/
theorem pairwise_messageRows (session : Session) :
    session.messageRows.Pairwise fun a b => a.ranksBefore b = true := by
  refine List.pairwise_map.mpr ((pairwise_zipIdx session.messages).imp fun le => ?_)
  exact MessageRow.ranksBefore_iff.mpr (.inr ⟨rfl, Int.ofNat_le.mpr le⟩)

/-- The messages of one session among those of several are its own. -/
theorem filter_messageRows {sessions : List Session} {session : Session}
    (distinct : (sessions.map Session.name).Nodup)
    (member : session ∈ sessions) :
    (sessions.flatMap messageRows).filter (fun message => message.sessionId == session.name) =
      session.messageRows := by
  have own : session.messageRows.filter
      (fun message => message.sessionId == session.name) = session.messageRows :=
    List.filter_eq_self.mpr fun message at' => beq_iff_eq.mpr (sessionId_of_mem_messageRows at')
  have others : ∀ rest : List Session, session.name ∉ rest.map name →
      (rest.flatMap messageRows).filter
        (fun message => message.sessionId == session.name) = [] := by
    intro rest absent
    refine List.filter_eq_nil_iff.mpr fun message at' same => absent ?_
    obtain ⟨other, among, its⟩ := List.mem_flatMap.mp at'
    have named := (sessionId_of_mem_messageRows its).symm.trans (beq_iff_eq.mp same)
    exact named ▸ List.mem_map_of_mem among
  induction sessions with
  | nil => cases member
  | cons first rest ih =>
      obtain ⟨notLater, distinct'⟩ := List.nodup_cons.mp distinct
      rw [List.flatMap_cons, List.filter_append]
      rcases List.mem_cons.mp member with rfl | later
      · rw [own, others rest notLater, List.append_nil]
      · have differs : session.name ≠ first.name := fun same =>
          notLater (same ▸ List.mem_map_of_mem later)
        have none : first.messageRows.filter
            (fun message => message.sessionId == session.name) = [] := by
          refine List.filter_eq_nil_iff.mpr fun message at' same => differs ?_
          exact (beq_iff_eq.mp same).symm.trans (sessionId_of_mem_messageRows at')
        rw [none, ih distinct' later, List.nil_append]

end Session

/-! ## Reading sessions back -/

/-- The registered sessions in the order of their identifiers' texts. -/
def Registry.ordered (registry : Registry) : List Session :=
  registry.sessions.mergeSort fun a b => decide (a.name ≤ b.name)

theorem Registry.mem_ordered {registry : Registry} {session : Session} :
    session ∈ registry.ordered ↔ session ∈ registry.sessions :=
  List.mem_mergeSort

/-- The record of a session as a snapshot gives it back: its window is an integer. -/
def Session.storedRecord (session : Session) : SessionRecord :=
  { session.toRecord with maxHistory := some (.integer session.window.size) }

namespace ChatState

variable {chat : ChatState}

/-- The messages of a session are read back in their old order. -/
theorem Storable.filter_sortedMessages (storable : chat.Storable) {session : Session}
    (member : session ∈ chat.registry.sessions) :
    chat.snapshot.sortedMessages.filter (fun message => message.sessionId == session.name) =
      session.messageRows := by
  have own : chat.snapshot.messages.filter (fun message => message.sessionId == session.name) =
      session.messageRows := Session.filter_messageRows storable.distinct member
  have placed : session.messageRows.Sublist chat.snapshot.messages := own ▸ List.filter_sublist
  have inside : session.messageRows.Sublist chat.snapshot.sortedMessages :=
    List.sublist_mergeSort MessageRow.ranksBefore_trans MessageRow.ranksBefore_total
      session.pairwise_messageRows placed
  have perm : (chat.snapshot.sortedMessages.filter
      fun message => message.sessionId == session.name).Perm session.messageRows :=
    own ▸ (List.mergeSort_perm _ _).filter _
  have filtered := inside.filter fun message => message.sessionId == session.name
  have unfiltered : session.messageRows.filter
      (fun message => message.sessionId == session.name) = session.messageRows :=
    List.filter_eq_self.mpr fun message at' =>
      beq_iff_eq.mpr (Session.sessionId_of_mem_messageRows at')
  rw [unfiltered] at filtered
  exact (filtered.eq_of_length perm.length_eq.symm).symm

theorem Storable.messageValues_eq (storable : chat.Storable) {session : Session}
    (member : session ∈ chat.registry.sessions) :
    session.messageRows.map Tables.messageValue = session.messages.map Session.messageValue := by
  have values : ∀ placed ∈ session.messages.zipIdx,
      Tables.messageValue (session.messageRow placed) = Session.messageValue placed.1 := by
    intro placed at'
    have kept := storable.contents session member placed.1 (List.fst_mem_of_mem_zipIdx at')
    unfold Tables.messageValue Session.messageRow Session.messageValue
    rw [kept.text_asText]
  unfold Session.messageRows
  rw [List.map_map]
  exact map_zipIdx_eq values

theorem sortedSessions_snapshot (chat : ChatState) :
    chat.snapshot.sortedSessions = chat.registry.ordered.map Session.row := by
  refine (List.map_mergeSort ?_).symm
  intro a _ b _
  rfl

/-- Every stored message has its session. -/
theorem find?_orphan (chat : ChatState) :
    chat.snapshot.sortedMessages.find? (fun message =>
      !chat.snapshot.sessions.any fun row => row.id == message.sessionId) = none := by
  refine List.find?_eq_none.mpr fun message at' orphan => ?_
  obtain ⟨session, among, its⟩ := List.mem_flatMap.mp (List.mem_mergeSort.mp at')
  have named := Session.sessionId_of_mem_messageRows its
  have found : (chat.snapshot.sessions.any fun row => row.id == message.sessionId) = true :=
    List.any_eq_true.mpr ⟨session.row, List.mem_map_of_mem among, beq_iff_eq.mpr named.symm⟩
  rw [found] at orphan
  cases orphan

/-- **A snapshot gives back the sessions**, in the order of their identifiers and each with its
messages. -/
theorem Storable.sessionRecords_snapshot (storable : chat.Storable) :
    chat.snapshot.sessionRecords = .ok (chat.registry.ordered.map Session.storedRecord) := by
  have records : ∀ session ∈ chat.registry.ordered,
      Tables.sessionRecord chat.snapshot.sortedMessages session.row = session.storedRecord := by
    intro session at'
    have member := Registry.mem_ordered.mp at'
    have own : chat.snapshot.sortedMessages.filter
        (fun message => message.sessionId == session.row.id) = session.messageRows :=
      storable.filter_sortedMessages member
    have id_eq : Value.text session.row.id = session.id := (storable.ids session member).text_asText
    unfold Tables.sessionRecord
    dsimp only
    rw [own, storable.messageValues_eq member, id_eq]
    rfl
  unfold Tables.sessionRecords
  dsimp only
  rw [find?_orphan, sortedSessions_snapshot, List.map_map]
  exact congrArg Except.ok (List.map_congr_left records)

end ChatState

/-! ## Reading memories back -/

namespace Vector32

theorem isLeaf_numbers (numbers : List (Option Single)) :
    ∀ item ∈ numbers.map Tables.numberValue, item.isLeaf = true := by
  intro item member
  obtain ⟨number, _, rfl⟩ := List.mem_map.mp member
  cases number <;> rfl

/-- A stored vector is read back as it was, with no number where one is missing. -/
theorem ofValue_numbers (numbers : List (Option Single)) :
    ofValue (.list (numbers.map Tables.numberValue)) =
      .ok (numbers.map fun number => number.getD .nan) := by
  have back : ∀ number ∈ numbers,
      (Tables.numberValue number).toSingle = .ok (number.getD .nan) := by
    intro number _
    cases number with
    | none => rfl
    | some x => exact congrArg Except.ok (Floating.convert_double_single x)
  unfold ofValue
  rw [Value.shape_list_of_flat (isLeaf_numbers numbers),
    Value.leaves_list_of_flat (isLeaf_numbers numbers)]
  exact Outcome.mapM_map_eq_ok back

/-- **A vector written with sixty-four bits is read back as it was.** -/
theorem ofValue_toValue (vector : Vector32) : ofValue vector.toValue = .ok vector := by
  have numbers : vector.toValue = .list ((vector.map some).map Tables.numberValue) := by
    rw [toValue, List.map_map]
    rfl
  rw [numbers, ofValue_numbers, List.map_map]
  exact congrArg Except.ok (List.map_id vector)

end Vector32

/-- A memory gets the entries of another from its records. -/
theorem Memory.extend_toRecords (memory other : Memory) :
    memory.extend other.toRecords = .ok (other.size, ⟨memory.entries ++ other.entries⟩) := by
  have back : ∀ entry ∈ other.entries,
      entryOfRecord ⟨some entry.text, some entry.vector.toValue⟩ = .ok (id entry) := by
    intro entry _
    unfold entryOfRecord entryOf
    dsimp only
    rw [Vector32.ofValue_toValue]
    rfl
  have entries : other.toRecords.mapM entryOfRecord = .ok other.entries :=
    (Outcome.mapM_map_eq_ok back).trans (congrArg Except.ok (List.map_id other.entries))
  unfold extend
  rw [entries]
  rfl

namespace ChatState

variable {chat : ChatState}

theorem sortedMemories_snapshot (chat : ChatState) :
    chat.snapshot.sortedMemories = chat.memory.entries.zipIdx.map MemoryEntry.row := by
  refine List.mergeSort_of_pairwise (List.pairwise_map.mpr ?_)
  exact (pairwise_zipIdx chat.memory.entries).imp fun le => decide_eq_true (Int.ofNat_le.mpr le)

/-- **A snapshot gives back the memories** in their old order. -/
theorem Storable.memoryRecords_snapshot (storable : chat.Storable) :
    chat.snapshot.memoryRecords = chat.memory.toRecords := by
  have records : ∀ placed ∈ chat.memory.entries.zipIdx,
      Tables.memoryRecord (MemoryEntry.row placed) =
        ⟨some placed.1.text, some placed.1.vector.toValue⟩ := by
    intro placed at'
    have kept := storable.texts placed.1 (List.fst_mem_of_mem_zipIdx at')
    have text_eq : Value.text (MemoryEntry.row placed).text = placed.1.text := kept.text_asText
    have numbers : ((MemoryEntry.row placed).vector.getD []).map Tables.numberValue =
        placed.1.vector.map fun x => .real (x.convert .double) := List.map_map
    unfold Tables.memoryRecord
    rw [text_eq, numbers]
    rfl
  unfold Tables.memoryRecords
  rw [sortedMemories_snapshot, List.map_map]
  exact map_zipIdx_eq records

end ChatState

end RecallChat
