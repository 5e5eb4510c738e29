import RecallChat.Proofs.Archive.Snapshot
import RecallChat.Proofs.Floating.Nearest

/-!
# Copying a memory

A memory is written as records: a text and a list of values of sixty-four bits each
(`Memory.toRecords`).  Every value of thirty-two bits is one of sixty-four, so a record says exactly
what its entry holds (`MemoryEntry.writtenAs_record`).  A memory that is extended with the records of
another holds the other's entries after its own, with the same texts and the same numbers, bit for
bit, and a copy answers every search as the memory it was copied from (`copy_of_toRecords`).
-/

set_option autoImplicit false

namespace RecallChat

/-- That a record says exactly what an entry holds: its text, and the numbers of its vector one
after the other. -/
def MemoryEntry.WrittenAs (entry : MemoryEntry) (record : MemoryRecord) : Prop :=
  ∃ numbers : List Double, record = ⟨some entry.text, some (.list (numbers.map .real))⟩ ∧
    List.Forall₂ Floating.Widens numbers entry.vector

/-- A record says what its entry holds. -/
theorem MemoryEntry.writtenAs_record (entry : MemoryEntry) :
    entry.WrittenAs ⟨some entry.text, some entry.vector.toValue⟩ := by
  refine ⟨entry.vector.map (Floating.convert .double), ?_, ?_⟩
  · rw [List.map_map]
    rfl
  · refine List.forall₂_map_left_iff.mpr (List.forall₂_same.mpr fun x _ => ?_)
    exact Floating.convert_double_widens x

namespace Memory

/-- The records of a memory say what its entries hold, in their order. -/
theorem forall₂_writtenAs_toRecords (memory : Memory) :
    List.Forall₂ MemoryEntry.WrittenAs memory.entries memory.toRecords :=
  List.forall₂_map_right_iff.mpr
    (List.forall₂_same.mpr fun entry _ => entry.writtenAs_record)

/-- **A memory can be copied.**  The records of a memory say exactly what it holds.  Extending any
memory with them is possible, counts them, and appends the very entries that they were made of; on
an empty memory this gives a copy that answers every search as the first memory does. -/
theorem copy_of_toRecords (source target : Memory) :
    List.Forall₂ MemoryEntry.WrittenAs source.entries source.toRecords ∧
      (∃ extended, target.extend source.toRecords = .ok (source.size, extended) ∧
        extended.entries = target.entries ++ source.entries) ∧
      ∃ copy, empty.extend source.toRecords = .ok (source.size, copy) ∧
        (∀ query limit, copy.search query limit = source.search query limit) ∧
        ∀ query limit, copy.searchTexts query limit = source.searchTexts query limit := by
  refine ⟨source.forall₂_writtenAs_toRecords, ⟨_, target.extend_toRecords source, rfl⟩, ?_⟩
  refine ⟨_, empty.extend_toRecords source, ?_, ?_⟩
  · intro query limit
    rfl
  · intro query limit
    rfl

end Memory

end RecallChat
