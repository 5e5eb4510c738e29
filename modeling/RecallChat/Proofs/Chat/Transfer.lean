import RecallChat.Proofs.Chat.Reaching
import RecallChat.Proofs.Chat.Registering

/-!
# Records between registries

The records of a registry carry its sessions into any other one: they arrive with their windows and
their histories, under the identifiers that the other registry knows in their old places and under
new ones after all others, and everything else there stays (`Registry.Receives`).  The records that
are written there about these identifiers are the ones that were read.  Reading them again finds all
sessions as they are (`Registry.Same`).

Records from elsewhere can be about one identifier several times, and can hold more messages than
their windows do.  Then the last one decides, with the end of its messages (`records_transfer`).
-/

set_option autoImplicit false

namespace RecallChat

/-- The window of a record's session is the one that the record asks for. -/
theorem Session.window_of_ofRecord {record : SessionRecord} {session : Session}
    (made : ofRecord record = .ok session) :
    Window.ofValue (record.maxHistory.getD (.integer Window.default.size)) = .ok session.window := by
  unfold ofRecord at made
  cases named : record.sessionId with
  | none =>
      rw [named] at made
      cases made
  | some id =>
      rw [named] at made
      obtain ⟨fresh, opened, made⟩ := Outcome.bind_eq_ok.mp made
      obtain ⟨items, _, made⟩ := Outcome.bind_eq_ok.mp made
      obtain ⟨messages, _, made⟩ := Outcome.bind_eq_ok.mp made
      obtain ⟨window, proper, rfl⟩ := Outcome.map_eq_ok.mp opened
      cases made
      exact proper

namespace Registry

variable {source target restored registry : Registry}

/-! ## Records of a registry -/

theorem mem_sessions_of_find? {id : Value} (string : id.IsString) {session : Session}
    (found : registry.find? id = some session) : session ∈ registry.sessions := by
  obtain ⟨handle, registered, rfl⟩ := Option.map_eq_some_iff.mp found
  have member := mem_of_lookup string registered
  exact List.mem_map.mpr ⟨(id, handle), member, rfl⟩

/-- The records of a sound registry are read as its sessions. -/
theorem Sound.mapM_toRecords (sound : registry.Sound) :
    registry.toRecords.mapM Session.ofRecord = .ok registry.sessions := by
  have read : (registry.sessions.map Session.toRecord).mapM Session.ofRecord =
      .ok (registry.sessions.map fun session => session) :=
    Outcome.mapM_map_eq_ok fun _ member =>
      Session.ofRecord_toRecord (sound.of_mem_sessions member).1
  rwa [List.map_id'] at read

/-- Restoring the records of a sound registry registers its sessions. -/
theorem Sound.restore_toRecords (sound : source.Sound) (sound' : target.Sound) :
    ∃ restored, target.restore source.toRecords = (.ok source.size, restored) ∧
      target.Registers source.sessions restored := by
  obtain ⟨restored, all, registers⟩ := registerAll_spec sound'
    (fun _ member => (sound.of_mem_sessions member).2)
    (fun _ member => (sound.of_mem_sessions member).1) sound.distinct
  refine ⟨restored, ?_, registers⟩
  have size_eq : source.sessions.length = source.size := List.length_map _
  rw [restore, sound.mapM_toRecords]
  dsimp only
  rw [all, ← size_eq]

/-! ## Receiving sessions -/

/-- That a registry is another one that has received the sessions of a source. -/
structure Receives (source target restored : Registry) : Prop extends
    target.Configured restored where
  sound : restored.Sound
  find?_source : ∀ session ∈ source.sessions, restored.find? session.id = some session
  find?_other : ∀ id : Value, id.IsString → id ∉ source.ids → restored.find? id = target.find? id
  ids_eq : restored.ids =
    target.ids ++ source.ids.filter fun id => (target.handle? id).isNone
  toRecords_perm :
    (restored.toRecords.filter fun record => source.ids.any record.names).Perm source.toRecords

/-- That a registry has the same sessions under the same identifiers as another, in the same order,
and its settings. -/
structure Same (registry after : Registry) : Prop extends registry.Configured after where
  ids_eq : after.ids = registry.ids
  find?_eq : ∀ id : Value, id.IsString → after.find? id = registry.find? id
  toRecords_eq : after.toRecords = registry.toRecords

/-- Where all sessions of a source are found, they are the sessions under its identifiers. -/
theorem Sound.sessions_perm (sound : source.Sound) (sound' : restored.Sound)
    (found : ∀ session ∈ source.sessions, restored.find? session.id = some session) :
    (restored.sessions.filter fun session => source.ids.any session.toRecord.names).Perm
      source.sessions := by
  refine (List.perm_ext_iff_of_nodup ((sound'.distinct.of_map _).filter _)
    (sound.distinct.of_map _)).mpr fun session => ?_
  rw [List.mem_filter, List.any_eq_true]
  constructor
  · rintro ⟨member, id, known, named⟩
    have string := (sound'.of_mem_sessions member).2
    obtain ⟨entry, at', rfl⟩ := List.mem_map.mp known
    have own : session.id = entry.1 :=
      Option.some.inj ((SessionRecord.names_iff (sound.strings entry at')).mp named)
    have known' : source.find? session.id = some (source.session entry.2) :=
      own ▸ sound.find?_of_entry at'
    have original := mem_sessions_of_find? string known'
    -- both sessions are found under one identifier
    have arrived := found _ original
    rw [sound.named entry at', ← own, sound'.find?_of_mem member] at arrived
    exact Option.some.inj arrived ▸ original
  · intro member
    have string := (sound.of_mem_sessions member).2
    have known : session.id ∈ source.ids := sound.mem_ids_iff.mpr ⟨session, member, rfl⟩
    exact ⟨mem_sessions_of_find? string (found session member), session.id, known,
      (SessionRecord.names_iff string).mpr rfl⟩

/-- A registry in which the sessions of a sound one are registered has received them. -/
theorem Registers.receives (sound : source.Sound)
    (registers : target.Registers source.sessions restored) : source.Receives target restored where
  maxHistory_eq := registers.maxHistory_eq
  defaultId_eq := registers.defaultId_eq
  sound := registers.sound
  find?_source := registers.find?_self
  find?_other := by
    intro id string absent
    exact registers.find?_other id string (sound.ids_eq ▸ absent)
  ids_eq := by
    rw [registers.ids_eq, sound.ids_eq]
    rfl
  toRecords_perm := by
    rw [toRecords, List.filter_map]
    exact (sound.sessions_perm registers.sound registers.find?_self).map _

/-- Receiving the same sessions again changes nothing. -/
theorem Receives.same (sound : source.Sound) (received : source.Receives target restored)
    {again : Registry} (receives : source.Receives restored again) : restored.Same again := by
  have ids_eq : again.ids = restored.ids := by
    rw [receives.ids_eq, List.append_right_eq_self, List.filter_eq_nil_iff]
    intro id known unknown
    obtain ⟨session, member, rfl⟩ := sound.mem_ids_iff.mp known
    have there := received.find?_source session member
    rw [find?, Option.isNone_iff_eq_none.mp unknown] at there
    cases there
  have find?_eq : ∀ id : Value, id.IsString → again.find? id = restored.find? id := by
    intro id string
    by_cases known : id ∈ source.ids
    · obtain ⟨session, member, rfl⟩ := sound.mem_ids_iff.mp known
      rw [receives.find?_source session member, received.find?_source session member]
    · exact receives.find?_other id string known
  refine ⟨⟨receives.maxHistory_eq, receives.defaultId_eq⟩, ids_eq, find?_eq, ?_⟩
  rw [toRecords, toRecords, receives.sound.sessions_eq, received.sound.sessions_eq, ids_eq]
  refine congrArg _ (List.filterMap_congr fun id member => ?_)
  obtain ⟨entry, at', rfl⟩ := List.mem_map.mp member
  exact find?_eq _ (received.sound.strings entry at')

/-! ## Transfers -/

/-- That records were restored in full: the last one about an identifier decides the window and the
end of its messages, and where there is none the session is the old one. -/
structure Replays (registry : Registry) (records : List SessionRecord) (restored : Registry) :
    Prop where
  last : ∀ id : Value, id.IsString → ∀ record, SessionRecord.last? id records = some record →
    ∃ session, restored.find? id = some session ∧
      Window.ofValue (record.maxHistory.getD (.integer Window.default.size)) = .ok session.window ∧
      session.messages = recent session.window.size record.log
  other : ∀ id : Value, id.IsString → SessionRecord.last? id records = none →
    restored.find? id = registry.find? id

/-- Records that can be read are restored in full. -/
theorem Sound.replays (sound : registry.Sound) {records : List SessionRecord}
    (strings : ∀ record ∈ records, ∀ id, record.sessionId = some id → id.IsString)
    (readable : ∀ record ∈ records, ∃ session, Session.ofRecord record = .ok session) :
    ∃ restored, registry.restore records = (.ok records.length, restored) ∧
      registry.Replays records restored := by
  obtain ⟨sessions, made, length_eq⟩ := Outcome.exists_mapM_eq_ok readable
  obtain ⟨restored, all, restores⟩ := sound.registerAll made strings
  refine ⟨restored, ?_, fun id string record last => ?_, restores.find?_other⟩
  · rw [restore, made]
    dsimp only
    rw [all, length_eq]
  · obtain ⟨session, read, found⟩ := restores.find?_last id string record last
    exact ⟨session, found, Session.window_of_ofRecord read, (Session.ofRecord_eq_ok read).2.2⟩

/-- **Records carry sessions from one registry to another.**  Whatever the two have in common and
whatever their settings, the sessions of the source arrive unchanged and everything else stays, and
restoring the same records once more changes nothing.  Any records that can be read are restored in
full, by the last one about each identifier. -/
theorem records_transfer {maxHistory defaultId maxHistory' defaultId' : Value}
    (reachable : Reachable maxHistory defaultId source)
    (reachable' : Reachable maxHistory' defaultId' target) :
    (∃ restored, target.restore source.toRecords = (.ok source.size, restored) ∧
        source.Receives target restored ∧
        ∃ again, restored.restore source.toRecords = (.ok source.size, again) ∧
          restored.Same again) ∧
      ∀ records : List SessionRecord,
        (∀ record ∈ records, ∀ id, record.sessionId = some id → id.IsString) →
        (∀ record ∈ records, ∃ session, Session.ofRecord record = .ok session) →
        ∃ restored, target.restore records = (.ok records.length, restored) ∧
          target.Replays records restored := by
  have sound := reachable.sound.1
  have sound' := reachable'.sound.1
  refine ⟨?_, fun records strings readable => sound'.replays strings readable⟩
  obtain ⟨restored, whole, registers⟩ := sound.restore_toRecords sound'
  obtain ⟨again, whole', registers'⟩ := sound.restore_toRecords registers.sound
  have received := registers.receives sound
  exact ⟨restored, whole, received, again, whole',
    received.same sound (registers'.receives sound)⟩

/-- A registry for pairs of messages, with a session that has had a turn and one that has not. -/
def lender : Registry :=
  ((Operation.getOrCreate (.text "b")).perform
    ((Operation.addTurn 0 (.text "hi") (.text "hey")).perform
      ((Operation.getOrCreate (.text "a")).perform
        (empty (.integer 2) (.text "default"))).2).2).2

theorem lender_reachable : Reachable (.integer 2) (.text "default") lender :=
  .perform (.perform (.perform .empty (.getOrCreate _) (by exact trivial)) (.addTurn 0 _ _) trivial)
    (.getOrCreate _) (by exact trivial)

/-- A registry for more messages that has one of these sessions with a turn, and another one. -/
def borrower : Registry :=
  ((Operation.getOrCreate (.text "c")).perform
    ((Operation.addTurn 0 (.text "old") (.text "gone")).perform
      ((Operation.getOrCreate (.text "b")).perform
        (empty (.integer 7) (.text "default"))).2).2).2

theorem borrower_reachable : Reachable (.integer 7) (.text "default") borrower :=
  .perform (.perform (.perform .empty (.getOrCreate _) (by exact trivial)) (.addTurn 0 _ _) trivial)
    (.getOrCreate _) (by exact trivial)

/-- Two records about one session, the second with more messages than its window holds. -/
def repeatedly : List SessionRecord :=
  [⟨some (.text "c"), none, none⟩,
    ⟨some (.text "c"), some (.integer 1), some (.list
      [Session.messageValue ⟨.user, .text "first"⟩, Session.messageValue ⟨.assistant, .text "last"⟩])⟩]

/-- The shared session arrives empty in its old place, and the new one after all others; and of two
records about one session the second decides. -/
theorem borrower_receives :
    (∃ restored, borrower.restore lender.toRecords = (.ok 2, restored) ∧
        restored.ids = [.text "b", .text "c", .text "a"] ∧
        restored.find? (.text "b") = lender.find? (.text "b") ∧
        restored.find? (.text "a") = lender.find? (.text "a") ∧
        restored.find? (.text "c") = borrower.find? (.text "c")) ∧
      ∃ restored session, borrower.restore repeatedly = (.ok 2, restored) ∧
        restored.find? (.text "c") = some session ∧ session.window.size = 1 ∧
        session.messages = [⟨.assistant, .text "last"⟩] := by
  obtain ⟨⟨restored, whole, received, _⟩, replayed⟩ :=
    records_transfer lender_reachable borrower_reachable
  have absent : Value.text "c" ∉ [Value.text "a", .text "b"] := by simp
  have strings : ∀ record ∈ repeatedly, ∀ id, record.sessionId = some id → id.IsString := by
    simp [repeatedly, Value.IsString]
  have readable : ∀ record ∈ repeatedly, ∃ session, Session.ofRecord record = .ok session :=
    List.forall_mem_cons.mpr ⟨⟨_, rfl⟩, List.forall_mem_singleton.mpr ⟨_, rfl⟩⟩
  obtain ⟨restored', whole', replays⟩ := replayed repeatedly strings readable
  obtain ⟨session, found, window, messages⟩ := replays.last (.text "c") trivial _ rfl
  have window_eq : session.window = ⟨1, false, by decide, by decide⟩ :=
    (Except.ok.inj window).symm
  rw [window_eq] at messages
  exact ⟨⟨restored, whole, received.ids_eq,
      received.find?_source (lender.session 1) (.tail _ (.head _)),
      received.find?_source (lender.session 0) (.head _),
      received.find?_other (.text "c") trivial absent⟩,
    restored', session, whole', found, congrArg Window.size window_eq, messages⟩

end Registry

end RecallChat
