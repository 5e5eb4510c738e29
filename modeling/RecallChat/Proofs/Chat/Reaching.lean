import RecallChat.Proofs.Chat.Windows

/-!
# Reachable registries

A registry is reachable when calls lead to it from an empty one (`Registry.Reachable`).  Every call
keeps a registry sound and leaves its settings alone (`Sound.perform`), so every reachable registry
is sound and has the settings that it was made with.

Restoring registers the sessions of records one after the other.  What is registered under an
identifier afterwards is the session of the last record about it, or what was there before where
there is no such record (`Sound.registerAll`).
-/

set_option autoImplicit false

namespace RecallChat.Registry

variable {registry : Registry} {records : List SessionRecord}

/-! ## Restoring records -/

/-- What restoring records does to a sound registry. -/
structure Restores (registry : Registry) (records : List SessionRecord) (restored : Registry) :
    Prop where
  sound : restored.Sound
  maxHistory_eq : restored.maxHistory = registry.maxHistory
  defaultId_eq : restored.defaultId = registry.defaultId
  find?_last : ∀ id : Value, id.IsString → ∀ record, SessionRecord.last? id records = some record →
    ∃ session, Session.ofRecord record = .ok session ∧ restored.find? id = some session
  find?_other : ∀ id : Value, id.IsString → SessionRecord.last? id records = none →
    restored.find? id = registry.find? id

/-- **The last record of an identifier decides its session**, and other sessions stay. -/
theorem Sound.registerAll (sound : registry.Sound) {sessions : List Session}
    (made : records.mapM Session.ofRecord = .ok sessions)
    (strings : ∀ record ∈ records, ∀ id, record.sessionId = some id → id.IsString) :
    ∃ restored, registry.registerAll sessions = (.ok (), restored) ∧
      registry.Restores records restored := by
  induction records generalizing sessions registry with
  | nil =>
      cases made
      exact ⟨registry, rfl, sound, rfl, rfl, nofun, fun _ _ _ => rfl⟩
  | cons record rest ih =>
      rw [List.mapM_cons] at made
      obtain ⟨session, first, made⟩ := Outcome.bind_eq_ok.mp made
      obtain ⟨others, later, made⟩ := Outcome.bind_eq_ok.mp made
      cases made
      obtain ⟨named, proper, _⟩ := Session.ofRecord_eq_ok first
      have string := strings record List.mem_cons_self session.id named
      have usable : key session.id = .ok session.id := if_pos (Value.isHashable_of_isString string)
      have own (asked : Value) (string' : asked.IsString) :
          record.names asked = true ↔ asked = session.id := by
        rw [SessionRecord.names_iff string', named, Option.some.injEq, eq_comm]
      obtain ⟨restored, all, restores⟩ := ih (sound.register string proper) later
        fun other member => strings other (List.mem_cons_of_mem record member)
      refine ⟨restored, ?_, restores.sound, restores.maxHistory_eq, restores.defaultId_eq, ?_, ?_⟩
      · rw [Registry.registerAll, usable]
        exact all
      · intro id string' last found
        rw [SessionRecord.last?_cons] at found
        cases among : SessionRecord.last? id rest with
        | some other =>
            -- a later record about the same identifier is the last one
            have same : other = last := by
              rw [among] at found
              split at found
              · exact Option.some.inj found
              · exact Option.some.inj found
            exact same ▸ restores.find?_last id string' other among
        | none =>
            rw [among] at found
            split at found
            · next about =>
              cases found
              cases (own id string').mp about
              exact ⟨session, first,
                (restores.find?_other _ string' among).trans (find?_register_self string)⟩
            · cases found
      · intro id string' absent
        rw [SessionRecord.last?_cons] at absent
        split at absent
        · cases absent
        · next apart =>
          rw [restores.find?_other id string' absent]
          exact find?_register_other sound string string' fun same =>
            apart ((own id string').mpr same)

/-- Restoring records fails and changes nothing, or restores them all. -/
theorem Sound.restore_cases (sound : registry.Sound)
    (strings : ∀ record ∈ records, ∀ id, record.sessionId = some id → id.IsString) :
    (∃ fault, records.mapM Session.ofRecord = .error fault ∧
        registry.restore records = (.error fault, registry)) ∨
      ∃ sessions restored, records.mapM Session.ofRecord = .ok sessions ∧
        registry.registerAll sessions = (.ok (), restored) ∧
        registry.restore records = (.ok sessions.length, restored) ∧
        registry.Restores records restored := by
  unfold restore
  cases made : records.mapM Session.ofRecord with
  | error fault => exact .inl ⟨fault, rfl, rfl⟩
  | ok sessions =>
      obtain ⟨restored, all, restores⟩ := sound.registerAll made strings
      refine .inr ⟨sessions, restored, rfl, all, ?_, restores⟩
      dsimp only
      rw [all]

/-! ## Reachability -/

/-- That a registry has the settings of another. -/
structure Configured (registry after : Registry) : Prop where
  maxHistory_eq : after.maxHistory = registry.maxHistory
  defaultId_eq : after.defaultId = registry.defaultId

/-- A call keeps a registry sound, and its settings as they are. -/
theorem Sound.perform (sound : registry.Sound) {operation : Operation}
    (textual : operation.Textual registry) :
    (operation.perform registry).2.Sound ∧ registry.Configured (operation.perform registry).2 := by
  cases operation with
  | getOrCreate id =>
      have spec := getOrCreate_spec sound textual
      cases place : registry.openedView (registry.resolveId id) with
      | error fault =>
          rw [place] at spec
          rw [Operation.perform, spec]
          exact ⟨sound, rfl, rfl⟩
      | ok seen =>
          rw [place] at spec
          obtain ⟨handle, opened, created, opens⟩ := spec
          rw [Operation.perform, created]
          exact ⟨opens.sound, opens.maxHistory_eq, opens.defaultId_eq⟩
  | addMessage handle role content =>
      rw [Operation.perform, Registry.addMessage]
      cases Message.make role content with
      | error fault => exact ⟨sound, rfl, rfl⟩
      | ok message => exact ⟨sound.modify (fun _ => rfl) fun _ proper => proper.push _, rfl, rfl⟩
  | addTurn handle user assistant => exact ⟨sound.addTurn handle user assistant, rfl, rfl⟩
  | restore records =>
      rw [Operation.perform]
      rcases sound.restore_cases textual with
        ⟨fault, _, failed⟩ | ⟨sessions, restored, _, _, whole, restores⟩
      · rw [failed]
        exact ⟨sound, rfl, rfl⟩
      · rw [whole]
        exact ⟨restores.sound, restores.maxHistory_eq, restores.defaultId_eq⟩
  | _ => exact ⟨sound, rfl, rfl⟩

/-- That calls lead to a registry from an empty one with the given settings.  Calls that only read
are among them, whatever they ask. -/
inductive Reachable (maxHistory defaultId : Value) : Registry → Prop
  | empty : Reachable maxHistory defaultId (empty maxHistory defaultId)
  | perform {registry : Registry} (reached : Reachable maxHistory defaultId registry)
      (operation : Operation) (textual : operation.Textual registry) :
      Reachable maxHistory defaultId (operation.perform registry).2

/-- A reachable registry is sound and has the settings it was made with. -/
theorem Reachable.sound {maxHistory defaultId : Value}
    (reachable : Reachable maxHistory defaultId registry) :
    registry.Sound ∧ (Registry.empty maxHistory defaultId).Configured registry := by
  induction reachable with
  | empty => exact ⟨sound_empty _ _, rfl, rfl⟩
  | perform _ operation textual ih =>
      obtain ⟨sound, settings⟩ := ih.1.perform textual
      exact ⟨sound, settings.maxHistory_eq.trans ih.2.maxHistory_eq,
        settings.defaultId_eq.trans ih.2.defaultId_eq⟩

end RecallChat.Registry
