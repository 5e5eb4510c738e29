import RecallChat.Proofs.Chat.Sessions

/-!
# Registering several sessions

The registered sessions of a sound registry have different identifiers (`Sound.distinct`), and each
is what is seen under its own (`Sound.view_of_mem`).  Registering sessions of different identifiers
puts each under its own, leaves all other identifiers alone, and adds the new identifiers at the end
in their order (`registerAll_spec`); so the order in which they are registered shows in the order of
the new ones only.
-/

set_option autoImplicit false

namespace RecallChat.Registry

variable {registry : Registry}

/-! ## Registered sessions -/

theorem Sound.of_mem_sessions (sound : registry.Sound) {session : Session}
    (member : session ∈ registry.sessions) : session.Sound ∧ session.id.IsString := by
  obtain ⟨entry, at', rfl⟩ := List.mem_map.mp member
  exact ⟨sound.sessions entry at', sound.named entry at' ▸ sound.strings entry at'⟩

theorem Sound.ids_eq (sound : registry.Sound) :
    registry.sessions.map Session.id = registry.index.map Prod.fst := by
  unfold Registry.sessions
  rw [List.map_map]
  exact List.map_congr_left sound.named

theorem Sound.mem_ids_iff (sound : registry.Sound) {id : Value} :
    id ∈ registry.ids ↔ ∃ session ∈ registry.sessions, session.id = id := by
  rw [← List.mem_map, sound.ids_eq]
  rfl

/-- No two registered sessions have the same identifier. -/
theorem Sound.distinct (sound : registry.Sound) : (registry.sessions.map Session.id).Nodup :=
  sound.ids_eq ▸ sound.keys

theorem Sound.find?_of_entry (sound : registry.Sound) {entry : Value × Handle}
    (member : entry ∈ registry.index) :
    registry.find? entry.1 = some (registry.session entry.2) := by
  have found : registry.handle? entry.1 = some entry.2 :=
    lookup_of_mem (sound.strings entry member) sound.keys member
  rw [find?, found]
  rfl

/-- A registered session is found under its identifier. -/
theorem Sound.find?_of_mem (sound : registry.Sound) {session : Session}
    (member : session ∈ registry.sessions) : registry.find? session.id = some session := by
  obtain ⟨entry, at', rfl⟩ := List.mem_map.mp member
  rw [sound.named entry at']
  exact sound.find?_of_entry at'

/-- A registered session is what is seen under its identifier. -/
theorem Sound.view_of_mem (sound : registry.Sound) {session : Session}
    (member : session ∈ registry.sessions) :
    registry.view session.id = some (session.window.size, session.messages) := by
  rw [view, sound.find?_of_mem member]
  rfl

/-- What is found under the identifiers, one after the other, are the registered sessions. -/
theorem Sound.sessions_eq (sound : registry.Sound) :
    registry.sessions = registry.ids.filterMap registry.find? := by
  have found : registry.index.filterMap (fun entry => registry.find? entry.1) =
      registry.index.filterMap fun entry => some (registry.session entry.2) :=
    List.filterMap_congr fun _ member => sound.find?_of_entry member
  rw [Registry.sessions, ids, List.filterMap_map]
  exact (List.filterMap_eq_map' ▸ found).symm

/-- Nothing is seen under an identifier of no registered session. -/
theorem Sound.view_of_not_mem (sound : registry.Sound) {id : Value} (string : id.IsString)
    (absent : id ∉ registry.sessions.map Session.id) : registry.view id = none := by
  rw [sound.ids_eq] at absent
  cases found : registry.handle? id with
  | none => exact view_of_absent found
  | some handle => exact (absent (List.mem_map_of_mem (mem_of_lookup string found))).elim

/-- There is no handle under exactly the identifiers that are not registered. -/
theorem handle?_eq_none_iff {id : Value} (string : id.IsString) :
    registry.handle? id = none ↔ id ∉ registry.ids := by
  constructor
  · intro absent member
    obtain ⟨entry, at', rfl⟩ := List.mem_map.mp member
    have unfound := List.find?_eq_none.mp (Option.map_eq_none_iff.mp absent) entry at'
    exact unfound (Value.sameKey_self string)
  · intro absent
    cases found : registry.handle? id with
    | none => rfl
    | some handle => exact (absent (List.mem_map_of_mem (mem_of_lookup string found))).elim

/-! ## Registering -/

/-- An identifier that is put into an index keeps its place, or gets the last one. -/
theorem keys_setHandle {index : List (Value × Handle)} {id : Value} (handle : Handle) :
    (setHandle id handle index).map Prod.fst =
      index.map Prod.fst ++ if (lookup index id).isNone then [id] else [] := by
  induction index with
  | nil => rfl
  | cons entry rest ih =>
      rw [setHandle, lookup_cons]
      by_cases same : Value.sameKey entry.1 id = true
      · rw [if_pos same, if_pos same]
        exact (List.append_nil _).symm
      · rw [if_neg same, if_neg same, List.map_cons, ih]
        rfl

/-- What registering several sessions does to a sound registry. -/
structure Registers (registry : Registry) (sessions : List Session) (registered : Registry) :
    Prop where
  sound : registered.Sound
  maxHistory_eq : registered.maxHistory = registry.maxHistory
  defaultId_eq : registered.defaultId = registry.defaultId
  find?_self : ∀ session ∈ sessions, registered.find? session.id = some session
  find?_other : ∀ id : Value, id.IsString → id ∉ sessions.map Session.id →
    registered.find? id = registry.find? id
  ids_eq : registered.ids = registry.ids ++
    (sessions.map Session.id).filter fun id => (registry.handle? id).isNone

section Registers

variable {sessions : List Session} {registered : Registry}

theorem Registers.view_self (registers : registry.Registers sessions registered)
    (session : Session) (member : session ∈ sessions) :
    registered.view session.id = some (session.window.size, session.messages) := by
  rw [view, registers.find?_self session member]
  rfl

theorem Registers.view_other (registers : registry.Registers sessions registered) {id : Value}
    (string : id.IsString) (absent : id ∉ sessions.map Session.id) :
    registered.view id = registry.view id := by
  rw [view, view, registers.find?_other id string absent]

end Registers

/-- **Sessions of different identifiers are registered side by side.** -/
theorem registerAll_spec {sessions : List Session} (sound : registry.Sound)
    (strings : ∀ session ∈ sessions, session.id.IsString)
    (proper : ∀ session ∈ sessions, session.Sound)
    (distinct : (sessions.map Session.id).Nodup) :
    ∃ registered, registry.registerAll sessions = (.ok (), registered) ∧
      registry.Registers sessions registered := by
  induction sessions generalizing registry with
  | nil =>
      exact ⟨registry, rfl, sound, rfl, rfl, nofun, fun _ _ _ => rfl, (List.append_nil _).symm⟩
  | cons session rest ih =>
      obtain ⟨notLater, distinct'⟩ := List.nodup_cons.mp distinct
      have string := strings session List.mem_cons_self
      obtain ⟨registered, all, registers⟩ :=
        ih (sound.register string (proper session List.mem_cons_self))
          (fun other later => strings other (List.mem_cons_of_mem session later))
          (fun other later => proper other (List.mem_cons_of_mem session later)) distinct'
      have usable : key session.id = .ok session.id := if_pos (Value.isHashable_of_isString string)
      refine ⟨registered, ?_, registers.sound, registers.maxHistory_eq, registers.defaultId_eq,
        ?_, ?_, ?_⟩
      · rw [registerAll, usable]
        exact all
      · intro other member
        rcases List.mem_cons.mp member with rfl | later
        · rw [registers.find?_other _ string notLater, find?_register_self string]
        · exact registers.find?_self other later
      · intro id string' absent
        rw [List.map_cons, List.mem_cons, not_or] at absent
        rw [registers.find?_other id string' absent.2,
          find?_register_other sound string string' absent.1]
      · have added : (registry.register session).ids = registry.ids ++
            if (registry.handle? session.id).isNone then [session.id] else [] :=
          keys_setHandle registry.pool.length
        have unchanged : (rest.map Session.id).filter
              (fun id => ((registry.register session).handle? id).isNone) =
            (rest.map Session.id).filter fun id => (registry.handle? id).isNone := by
          refine List.filter_congr fun id member => ?_
          obtain ⟨other, later, rfl⟩ := List.mem_map.mp member
          have same : (registry.register session).handle? other.id = registry.handle? other.id :=
            lookup_setHandle_other string (strings other (List.mem_cons_of_mem session later))
              fun equal => notLater (equal ▸ member)
          rw [same]
        rw [registers.ids_eq, added, unchanged, List.append_assoc, List.map_cons,
          List.filter_cons]
        split <;> rfl

end RecallChat.Registry
