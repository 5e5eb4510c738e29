import RecallChat.Proofs.Chat.Transfer

/-!
# Loading records

Records can come from anywhere: fields can be missing, and any value can stand in them.  All sessions
are made before the first is registered, so a record of which no session can be made leaves the
registry as it is.  An identifier is looked at only when its session is registered, though.  Where a
list or a map stands in its place the sessions of the records before it are registered already, and
they stay (`Registry.Stops`).

So loading is all or nothing except for such an identifier behind other records, and then it has
loaded these other records and nothing else (`loading_stops`).
-/

set_option autoImplicit false

namespace RecallChat

/-! ## Identifiers that cannot be keys -/

/-- The fault of an identifier that cannot be a key. -/
def Registry.unusableKey (id : Value) : Fault :=
  .wrongType ("no key can be of kind " ++ id.kindName)

/-- That every identifier in some records can be a key. -/
def SessionRecord.Keyed (records : List SessionRecord) : Prop :=
  ∀ record ∈ records, ∀ id, record.sessionId = some id → id.isHashable = true

/-- That a session can be made of every record. -/
def SessionRecord.Readable (records : List SessionRecord) : Prop :=
  ∀ record ∈ records, ∃ session, Session.ofRecord record = .ok session

theorem SessionRecord.readable_of_made {records : List SessionRecord} {sessions : List Session}
    (made : records.mapM Session.ofRecord = .ok sessions) : SessionRecord.Readable records :=
  fun _ member => Outcome.exists_of_mapM_eq_ok made member

/-- A session that is made of a record bears its identifier. -/
theorem Session.id_of_ofRecord {record : SessionRecord} {session : Session}
    (made : ofRecord record = .ok session) : record.sessionId = some session.id :=
  (ofRecord_eq_ok made).1

namespace Registry

variable {registry after : Registry} {records : List SessionRecord} {fault : Fault}

theorem key_of_hashable {id : Value} (hashable : id.isHashable = true) : key id = .ok id :=
  if_pos hashable

theorem key_of_unhashable {id : Value} (unhashable : id.isHashable = false) :
    key id = .error (unusableKey id) :=
  if_neg (Bool.eq_false_iff.mp unhashable)

/-! ## Registering one after the other -/

/-- Registering stops at the first identifier that cannot be a key, with everything before it
registered. -/
theorem registerAll_eq_error_iff {sessions : List Session} :
    registry.registerAll sessions = (.error fault, after) ↔ ∃ before session rest,
      sessions = before ++ session :: rest ∧ session.id.isHashable = false ∧
        fault = unusableKey session.id ∧ registry.registerAll before = (.ok (), after) := by
  induction sessions generalizing registry with
  | nil => simp [registerAll]
  | cons first others ih =>
      rw [registerAll]
      constructor
      · intro failed
        cases hashable : first.id.isHashable with
        | false =>
            rw [key_of_unhashable hashable] at failed
            cases failed
            exact ⟨[], first, others, rfl, hashable, rfl, rfl⟩
        | true =>
            rw [key_of_hashable hashable] at failed
            obtain ⟨before, session, rest, rfl, unhashable, reason, partly⟩ := ih.mp failed
            refine ⟨first :: before, session, rest, rfl, unhashable, reason, ?_⟩
            rw [registerAll, key_of_hashable hashable]
            exact partly
      · rintro ⟨before, session, rest, split, unhashable, rfl, partly⟩
        cases before with
        | nil =>
            cases split
            cases partly
            rw [key_of_unhashable unhashable]
        | cons other before =>
            cases split
            cases hashable : first.id.isHashable with
            | false =>
                rw [registerAll, key_of_unhashable hashable] at partly
                cases partly
            | true =>
                rw [registerAll, key_of_hashable hashable] at partly
                rw [key_of_hashable hashable]
                exact ih.mpr ⟨before, session, rest, rfl, unhashable, rfl, partly⟩

/-! ## Loading -/

/-- Records of which sessions can be made are restored as far as these are registered. -/
theorem restore_of_made {sessions : List Session}
    (made : records.mapM Session.ofRecord = .ok sessions) (registry : Registry) :
    registry.restore records =
      ((registry.registerAll sessions).1.map fun _ => sessions.length,
        (registry.registerAll sessions).2) := by
  rw [restore, made]
  dsimp only
  rcases registry.registerAll sessions with ⟨_ | _, restored⟩ <;> rfl

theorem registerAll_of_loaded {sessions : List Session} {count : Nat}
    (made : records.mapM Session.ofRecord = .ok sessions)
    (loaded : registry.restore records = (.ok count, after)) :
    registry.registerAll sessions = (.ok (), after) := by
  rw [restore_of_made made] at loaded
  rcases registered : registry.registerAll sessions with ⟨_ | _, restored⟩
  · rw [registered] at loaded
    cases loaded
  · rw [registered] at loaded
    cases loaded
    rfl

theorem registerAll_of_failed {sessions : List Session}
    (made : records.mapM Session.ofRecord = .ok sessions)
    (failed : registry.restore records = (.error fault, after)) :
    registry.registerAll sessions = (.error fault, after) := by
  rw [restore_of_made made] at failed
  rcases registered : registry.registerAll sessions with ⟨_ | _, restored⟩
  · rw [registered] at failed
    cases failed
    rfl
  · rw [registered] at failed
    cases failed

/-- How loading records stops. -/
inductive Stops (registry : Registry) (records : List SessionRecord) (fault : Fault) :
    Registry → Prop
  /-- No session can be made of a record, and nothing is registered. -/
  | unread (before : List SessionRecord) (record : SessionRecord) (rest : List SessionRecord)
      (split : records = before ++ record :: rest) (read : SessionRecord.Readable before)
      (refused : Session.ofRecord record = .error fault) :
      Stops registry records fault registry
  /-- An identifier cannot be a key, and the records before it are loaded. -/
  | unkeyed (before : List SessionRecord) (record : SessionRecord) (rest : List SessionRecord)
      (split : records = before ++ record :: rest) (read : SessionRecord.Readable records)
      (id : Value) (named : record.sessionId = some id) (unhashable : id.isHashable = false)
      (reason : fault = unusableKey id) (partly : Registry)
      (loaded : registry.restore before = (.ok before.length, partly)) :
      Stops registry records fault partly

/-- **Loading fails exactly where it stops.** -/
theorem restore_eq_error_iff :
    registry.restore records = (.error fault, after) ↔ registry.Stops records fault after := by
  constructor
  · intro failed
    cases made : records.mapM Session.ofRecord with
    | error reason =>
        rw [restore, made] at failed
        cases failed
        obtain ⟨before, record, rest, split, read, refused⟩ := Outcome.mapM_eq_error_iff.mp made
        exact .unread before record rest split read refused
    | ok sessions =>
        obtain ⟨before, session, rest, rfl, unhashable, reason, partly⟩ :=
          registerAll_eq_error_iff.mp (registerAll_of_failed made failed)
        -- the records are split where their sessions are
        obtain ⟨front, back, rfl, first, second⟩ := Outcome.exists_append_of_mapM_eq_ok made
        cases back with
        | nil => cases second
        | cons record others =>
            rw [List.mapM_cons] at second
            obtain ⟨own, bears, second⟩ := Outcome.bind_eq_ok.mp second
            obtain ⟨_, _, second⟩ := Outcome.bind_eq_ok.mp second
            cases second
            have loaded : registry.restore front = (.ok front.length, after) := by
              rw [restore_of_made first, partly, (Outcome.mapM_eq_ok_iff.mp first).length_eq]
              rfl
            exact .unkeyed front record others rfl (SessionRecord.readable_of_made made) session.id
              (Session.id_of_ofRecord bears) unhashable reason after loaded
  · intro stops
    cases stops with
    | unread before record rest split read refused =>
        have failed := Outcome.mapM_eq_error_iff.mpr ⟨before, record, rest, split, read, refused⟩
        rw [restore, failed]
    | unkeyed before record rest split read id named unhashable reason partly loaded =>
        obtain ⟨sessions, made, _⟩ := Outcome.exists_mapM_eq_ok read
        rw [split] at made
        obtain ⟨front, back, rfl, first, second⟩ := Outcome.mapM_append_eq_ok.mp made
        rw [List.mapM_cons] at second
        obtain ⟨session, bears, second⟩ := Outcome.bind_eq_ok.mp second
        obtain ⟨others, _, second⟩ := Outcome.bind_eq_ok.mp second
        cases second
        have id_eq : session.id = id :=
          Option.some.inj ((Session.id_of_ofRecord bears).symm.trans named)
        have stopped := registerAll_eq_error_iff.mpr
          ⟨front, session, others, rfl, id_eq ▸ unhashable, rfl, registerAll_of_loaded first loaded⟩
        rw [split, restore_of_made made, stopped, reason, id_eq]
        rfl

/-- Where every identifier can be a key, loading that stops has registered nothing. -/
theorem Stops.eq_of_keyed (stops : registry.Stops records fault after)
    (keyed : SessionRecord.Keyed records) : after = registry := by
  cases stops with
  | unread => rfl
  | unkeyed before record rest split read id named unhashable =>
      have member : record ∈ records := by
        rw [split]
        exact List.mem_append_right before List.mem_cons_self
      rw [keyed record member id named] at unhashable
      cases unhashable

/-- **How loading can fail.**  It stops at a record of which no session can be made, and leaves the
registry as it was, or at an identifier that cannot be a key, with exactly the records before it
loaded.  So it is all or nothing where every identifier can be a key; and where it is not, the
sessions of the other records have replaced those of a reachable registry. -/
theorem loading_stops (registry : Registry) (records : List SessionRecord) :
    (∀ fault after, registry.restore records = (.error fault, after) ↔
        registry.Stops records fault after) ∧
      (SessionRecord.Keyed records →
        ∀ fault after, registry.restore records = (.error fault, after) → after = registry) ∧
      ∀ (maxHistory defaultId : Value) (before : List SessionRecord) (partly : Registry),
        Reachable maxHistory defaultId registry →
        (∀ record ∈ before, ∀ id, record.sessionId = some id → id.IsString) →
        registry.restore before = (.ok before.length, partly) → registry.Replays before partly := by
  refine ⟨fun _ _ => restore_eq_error_iff, ?_, ?_⟩
  · intro keyed fault after failed
    exact (restore_eq_error_iff.mp failed).eq_of_keyed keyed
  · intro maxHistory defaultId before partly reachable strings loaded
    have read : SessionRecord.Readable before := by
      cases made : before.mapM Session.ofRecord with
      | error fault =>
          rw [restore, made] at loaded
          cases loaded
      | ok sessions => exact SessionRecord.readable_of_made made
    obtain ⟨restored, whole, replays⟩ := reachable.sound.1.replays strings read
    rw [loaded] at whole
    cases whole
    exact replays

/-- A record without messages, and one whose window is no number. -/
def unreadable : List SessionRecord :=
  [⟨some (.text "a"), none, none⟩, ⟨some (.text "b"), some .null, none⟩]

/-- A record without messages, and one with a list in place of the identifier. -/
def spoiled : List SessionRecord :=
  [⟨some (.text "a"), none, none⟩, ⟨some (.list [.text "b"]), none, none⟩]

/-- Both lists of records fail to load, but only the first leaves the session of the first record as
it was. -/
theorem spoiled_stops :
    (∃ fault, lender.restore unreadable = (.error fault, lender)) ∧
      ∃ fault after, lender.restore spoiled = (.error fault, after) ∧
        (∃ session, after.find? (.text "a") = some session ∧ session.messages = []) ∧
        after.find? (.text "b") = lender.find? (.text "b") := by
  obtain ⟨_, whole, _⟩ := loading_stops lender unreadable
  obtain ⟨_, _, partly⟩ := loading_stops lender spoiled
  have keyed : SessionRecord.Keyed unreadable := by
    simp [SessionRecord.Keyed, unreadable, Value.isHashable]
  obtain ⟨fault, after, failed⟩ : ∃ fault after,
      lender.restore unreadable = (.error fault, after) := ⟨_, _, rfl⟩
  obtain ⟨fault', after', failed', loaded⟩ : ∃ fault after,
      lender.restore spoiled = (.error fault, after) ∧
        lender.restore [⟨some (.text "a"), none, none⟩] = (.ok 1, after) := ⟨_, _, rfl, rfl⟩
  have replays := partly _ _ [⟨some (.text "a"), none, none⟩] after' lender_reachable
    (by simp [Value.IsString]) loaded
  obtain ⟨session, found, _, messages⟩ :=
    replays.last (.text "a") trivial ⟨some (.text "a"), none, none⟩ rfl
  refine ⟨⟨fault, ?_⟩, fault', after', failed', ⟨session, found, ?_⟩, ?_⟩
  · rw [failed, whole keyed fault after failed]
  · exact messages.trans (recent_of_length_le (Nat.zero_le _))
  · exact replays.other (.text "b") trivial rfl

/-- A load that fails erases the history of a session. -/
theorem spoiled_erases :
    Reachable (.integer 2) (.text "default") lender ∧
      ∃ fault after, lender.restore spoiled = (.error fault, after) ∧
        lender.history (.text "a") = .ok [⟨.user, .text "hi"⟩, ⟨.assistant, .text "hey"⟩] ∧
        after.history (.text "a") = .ok [] :=
  ⟨lender_reachable, _, _, rfl, rfl, rfl⟩

end Registry

end RecallChat
