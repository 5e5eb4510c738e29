import RecallChat.Proofs.Archive.Merging
import RecallChat.Proofs.Chat.Likeness

/-!
# Checkpoints

A state that is saved and restored into a fresh one gives a state that is alike: the same memory,
and a registry that holds the same under every identifier, though its sessions were registered in
another order (`alike_restored`).  Since conversations cannot tell alike states apart, they go on
from the restored state as they would have gone on from the saved one (`checkpoint_transparent`).
-/

set_option autoImplicit false

namespace RecallChat

/-! ## The restored state -/

namespace ChatState

variable {chat : ChatState}

/-- A state without sessions and memories, with the settings of another. -/
def fresh (chat : ChatState) : ChatState :=
  ⟨.empty chat.registry.maxHistory chat.registry.defaultId, .empty⟩

/-- What is restored from the snapshot of a state is alike. -/
theorem Storable.alike_restored (storable : chat.Storable) {registered : Registry}
    (registers : chat.fresh.registry.Registers (chat.registry.ordered.map Session.reopened)
      registered) : chat.registry.Alike registered where
  sound := storable.sound
  sound' := registers.sound
  maxHistory_eq := registers.maxHistory_eq
  defaultId_eq := registers.defaultId_eq
  view_eq := by
    intro id string
    by_cases present : id ∈ chat.registry.sessions.map Session.id
    · obtain ⟨session, member, rfl⟩ := List.mem_map.mp present
      have reopened : session.reopened ∈ chat.registry.ordered.map Session.reopened :=
        List.mem_map_of_mem (Registry.mem_ordered.mpr member)
      rw [storable.sound.view_of_mem member]
      exact registers.view_self session.reopened reopened
    · have absent : id ∉ (chat.registry.ordered.map Session.reopened).map Session.id := by
        intro among
        rw [List.map_map] at among
        obtain ⟨session, member, rfl⟩ := List.mem_map.mp among
        have named : session.id ∈ chat.registry.sessions.map Session.id :=
          List.mem_map_of_mem (Registry.mem_ordered.mp member)
        exact present named
      rw [registers.view_other string absent, storable.sound.view_of_not_mem string present]
      rfl

/-- **Restoring the snapshot of a state gives the same memory and a registry that is alike.** -/
theorem Storable.restoreInto_fresh (storable : chat.Storable) :
    ∃ registered,
      Database.restoreInto chat.snapshot chat.fresh =
        (.ok (chat.registry.size, chat.memory.size), ⟨registered, chat.memory⟩) ∧
      chat.registry.Alike registered := by
  have sound : chat.fresh.registry.Sound := Registry.sound_empty _ _
  obtain ⟨registered, restored, registers⟩ := storable.restoreInto_snapshot sound
  exact ⟨registered, restored, storable.alike_restored registers⟩

end ChatState

namespace Archive

variable {chat : ChatState}

/-- **Checkpoints are transparent.**  A state that can be stored is saved and restored without a
fault, and every further conversation has the same exchanges from the restored state as from the
saved one: the same replies and faults, the same texts retrieved with the same similarities, and the
same requests to the embedder and the generator. -/
theorem checkpoint_transparent (archive : Archive) (isOpen : archive.isOpen = true)
    (idle : archive.database.working = none) (storable : chat.Storable)
    (scene : Scene ArchiveFiles) :
    ∃ saved afterSave restored afterRestore,
      (archive.save chat).perform scene = (.ok (.ok (), saved), afterSave) ∧
      (saved.restore chat.fresh).perform afterSave = (.ok (.ok (), restored), afterRestore) ∧
      ∀ {σ : Type} (conversation : Conversation σ) (inner : σ) (journal : Journal)
        (calls : List Call),
        (∀ call ∈ calls, (chat.registry.resolveId call.sessionId).IsString) →
        (conversation.converse calls ⟨⟨inner, restored⟩, journal⟩).1 =
            (conversation.converse calls ⟨⟨inner, chat⟩, journal⟩).1 ∧
          Alike (conversation.converse calls ⟨⟨inner, chat⟩, journal⟩).2
            (conversation.converse calls ⟨⟨inner, restored⟩, journal⟩).2 := by
  obtain ⟨committed, seen⟩ := current_of_idle idle scene.world
  obtain ⟨journal, saved⟩ := perform_save isOpen storable scene seen
  obtain ⟨registered, merged, alike⟩ := storable.restoreInto_fresh
  obtain ⟨afterRestore, restored⟩ := perform_restore
    { archive with database := ⟨chat.snapshot, none⟩ } isOpen
    ⟨archive.written ⟨chat.snapshot, none⟩ scene.world, journal⟩
    (current_written archive ⟨chat.snapshot, none⟩ scene.world) merged
  refine ⟨_, _, _, _, saved, restored, ?_⟩
  intro σ conversation inner journal calls strings
  have likeness : Alike (⟨⟨inner, chat⟩, journal⟩ : Scene (Conversing σ))
      ⟨⟨inner, ⟨registered, chat.memory⟩⟩, journal⟩ := ⟨rfl, rfl, rfl, alike⟩
  exact conversation.converse_alike likeness strings

/-- A small state goes on from a checkpoint in an archive in memory. -/
theorem checkpoint_small :
    ∃ saved afterSave restored afterRestore,
      (save ⟨inMemory, none, true, ⟨.empty, none⟩⟩ small).perform ⟨.empty, .empty⟩ =
        (.ok (.ok (), saved), afterSave) ∧
      (saved.restore small.fresh).perform afterSave = (.ok (.ok (), restored), afterRestore) ∧
      (Conversation.constant.converse [⟨.text "hi", .text "second"⟩, ⟨.text "you", .null⟩]
          ⟨⟨(), restored⟩, .empty⟩).1 =
        (Conversation.constant.converse [⟨.text "hi", .text "second"⟩, ⟨.text "you", .null⟩]
          ⟨⟨(), small⟩, .empty⟩).1 := by
  have strings : ∀ call ∈ ([⟨.text "hi", .text "second"⟩, ⟨.text "you", .null⟩] : List Call),
      (small.registry.resolveId call.sessionId).IsString := by
    simp [small, Registry.register, Registry.empty, Registry.resolveId, Value.IsString]
  obtain ⟨saved, afterSave, restored, afterRestore, performed, performed', same⟩ :=
    checkpoint_transparent ⟨inMemory, none, true, ⟨.empty, none⟩⟩ rfl rfl storable_small
      ⟨.empty, .empty⟩
  exact ⟨saved, afterSave, restored, afterRestore, performed, performed',
    (same Conversation.constant () .empty _ strings).1⟩

end Archive

end RecallChat
