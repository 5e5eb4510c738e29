import RecallChat.Proofs.Outcome
import RecallChat.Registry
import Mathlib.Data.List.GetD
import Mathlib.Data.List.Nodup

/-!
# Sound registries

A registry is sound when its index and its pool fit together (`Registry.Sound`): every handle leads
into the pool, no two identifiers share a handle, every session bears the identifier it is
registered under, and every session is sound itself: it holds no more than its window.  Registering
and changing sessions keeps registries sound.

What a sound registry holds under an identifier is the window and the messages of the session there
(`Registry.view`).  Opening a session adds an empty one at most, and adding a turn changes what is
under its own identifier only.
-/

set_option autoImplicit false

namespace RecallChat

/-! ## Identifiers -/

/-- A value that is a text, well-formed or not. -/
def Value.IsString : Value → Prop
  | .text _ => True
  | .illFormed _ => True
  | _ => False

theorem Value.isHashable_of_isString {id : Value} (string : id.IsString) :
    id.isHashable = true := by
  cases id <;> first | rfl | exact string.elim

/-- Only the same text is the same key as a text. -/
theorem Value.sameKey_iff {id : Value} (string : id.IsString) (other : Value) :
    Value.sameKey other id = true ↔ other = id := by
  cases id with
  | text value => cases other <;> simp [Value.sameKey, Value.number?]
  | illFormed points => cases other <;> simp [Value.sameKey, Value.number?]
  | _ => exact string.elim

theorem Value.sameKey_self {id : Value} (string : id.IsString) : Value.sameKey id id = true :=
  (sameKey_iff string id).mpr rfl

/-! ## Sessions -/

/-- A window that is a truth value holds one message. -/
theorem Window.size_of_isTruthValue {value : Value} {window : Window}
    (made : Window.ofValue value = .ok window) (truth : window.isTruthValue = true) :
    window.size = 1 := by
  unfold Window.ofValue at made
  split at made
  · cases made
  · next number isNumber =>
    split at made
    · obtain ⟨_, _, refused⟩ := Outcome.bind_eq_ok.mp made
      cases refused
    · split at made
      · cases made
      · next n =>
        split at made
        · next bounds =>
          cases made
          cases value with
          | boolean value =>
              cases value with
              | false =>
                  cases isNumber
                  exact absurd bounds.1 (Nat.lt_irrefl 0)
              | true =>
                  cases isNumber
                  rfl
          | _ => cases truth
        · cases made

/-- A positive integer below the greatest size of a list stands for a window of its size. -/
theorem Window.ofValue_integer {size : Nat} (positive : 0 < size) (bounded : size < 2 ^ 63) :
    Window.ofValue (.integer size) = .ok ⟨size, false, positive, bounded⟩ := by
  have enough : (Number.integer size).less (.integer 1) = false := by
    have order : compare (size : Int) 1 ≠ .lt := by
      rw [ne_eq, Std.compare_eq_lt]
      omega
    simpa [Number.less, Number.compare?] using order
  have inside : 0 < (size : Int).toNat ∧ (size : Int).toNat < 2 ^ 63 := ⟨positive, bounded⟩
  unfold Window.ofValue
  simp only [Value.number?, enough]
  rw [if_neg Bool.false_ne_true]
  exact dif_pos inside

/-- That a session holds no more than its window, and that its window is a proper one. -/
structure Session.Sound (session : Session) : Prop where
  fits : session.messages.length ≤ session.window.size
  truthValue : session.window.isTruthValue = true → session.window.size = 1

theorem Session.Sound.push {session : Session} (sound : session.Sound) (messages : List Message) :
    (session.push messages).Sound :=
  ⟨length_recent_le _ _, sound.truthValue⟩

/-- A proper window is read back from the value it was given as. -/
theorem Window.ofValue_toValue {window : Window}
    (proper : window.isTruthValue = true → window.size = 1) :
    Window.ofValue window.toValue = .ok window := by
  obtain ⟨size, isTruthValue, positive, bounded⟩ := window
  cases isTruthValue with
  | true =>
      cases proper rfl
      rfl
  | false => exact Window.ofValue_integer positive bounded

/-- Messages are read back from their values. -/
theorem Session.messageOfValue_messageValue (message : Message) :
    messageOfValue (messageValue message) = .ok message := by
  cases message with
  | mk role content => cases role <;> rfl

/-- A session is read back from its record. -/
theorem Session.ofRecord_toRecord {session : Session} (sound : session.Sound) :
    ofRecord session.toRecord = .ok session := by
  have opened : make session.id session.window.toValue = .ok ⟨session.id, session.window, []⟩ := by
    rw [make, Window.ofValue_toValue sound.truthValue]
    rfl
  have messages : (session.messages.map messageValue).mapM messageOfValue =
      .ok (session.messages.map fun message => message) :=
    Outcome.mapM_map_eq_ok fun message _ => messageOfValue_messageValue message
  have whole : recent session.window.size ([] ++ session.messages) = session.messages :=
    recent_of_length_le sound.fits
  change (make session.id session.window.toValue >>= fun opened =>
    (session.messages.map messageValue).mapM messageOfValue >>= fun messages =>
      .ok (opened.push messages)) = _
  rw [opened, messages, List.map_id']
  change Except.ok (⟨session.id, session.window,
    recent session.window.size ([] ++ session.messages)⟩ : Session) = _
  rw [whole]

namespace Registry

/-! ## The index -/

section Index

variable {index : List (Value × Handle)} {id other : Value} {handle : Handle}

/-- The handle under an identifier in an index. -/
def lookup (index : List (Value × Handle)) (id : Value) : Option Handle :=
  (index.find? fun entry => Value.sameKey entry.1 id).map Prod.snd

theorem lookup_cons (entry : Value × Handle) (rest : List (Value × Handle)) (id : Value) :
    lookup (entry :: rest) id =
      if Value.sameKey entry.1 id then some entry.2 else lookup rest id := by
  unfold lookup
  rw [List.find?_cons]
  split <;> simp_all

theorem mem_of_lookup (string : id.IsString) (found : lookup index id = some handle) :
    (id, handle) ∈ index := by
  obtain ⟨entry, at', rfl⟩ := Option.map_eq_some_iff.mp found
  have matched := List.find?_some at'
  have same : entry.1 = id := (Value.sameKey_iff string _).mp matched
  exact same ▸ List.mem_of_find?_eq_some at'

/-- Where no identifier occurs twice, every entry is found. -/
theorem lookup_of_mem (string : id.IsString) (keys : (index.map Prod.fst).Nodup)
    (member : (id, handle) ∈ index) : lookup index id = some handle := by
  induction index with
  | nil => cases member
  | cons entry rest ih =>
      obtain ⟨notLater, keys'⟩ := List.nodup_cons.mp keys
      rw [lookup_cons]
      rcases List.mem_cons.mp member with rfl | later
      · exact if_pos (Value.sameKey_self string)
      · have differs : ¬ Value.sameKey entry.1 id = true := fun same =>
          notLater (((Value.sameKey_iff string _).mp same).symm ▸ List.mem_map_of_mem later)
        rw [if_neg differs]
        exact ih keys' later

theorem lookup_setHandle_self (string : id.IsString) :
    lookup (setHandle id handle index) id = some handle := by
  induction index with
  | nil => rw [setHandle, lookup_cons, if_pos (Value.sameKey_self string)]
  | cons entry rest ih =>
      rw [setHandle]
      by_cases same : Value.sameKey entry.1 id = true
      · rw [if_pos same, lookup_cons, if_pos same]
      · rw [if_neg same, lookup_cons, if_neg same, ih]

theorem lookup_setHandle_other (string : id.IsString) (string' : other.IsString)
    (ne : other ≠ id) : lookup (setHandle id handle index) other = lookup index other := by
  induction index with
  | nil =>
      have differs : ¬ Value.sameKey id other = true :=
        fun same => ne ((Value.sameKey_iff string' _).mp same).symm
      rw [setHandle, lookup_cons, if_neg differs]
  | cons entry rest ih =>
      rw [setHandle]
      by_cases same : Value.sameKey entry.1 id = true
      · have differs : ¬ Value.sameKey entry.1 other = true := fun same' =>
          ne (((Value.sameKey_iff string' _).mp same').symm.trans
            ((Value.sameKey_iff string _).mp same))
        rw [if_pos same, lookup_cons, lookup_cons, if_neg differs, if_neg differs]
      · rw [if_neg same, lookup_cons, lookup_cons, ih]

theorem mem_setHandle {entry : Value × Handle} (string : id.IsString)
    (member : entry ∈ setHandle id handle index) : entry ∈ index ∨ entry = (id, handle) := by
  induction index with
  | nil => exact .inr (List.mem_singleton.mp member)
  | cons first rest ih =>
      rw [setHandle] at member
      by_cases same : Value.sameKey first.1 id = true
      · rw [if_pos same] at member
        rcases List.mem_cons.mp member with rfl | later
        · exact .inr (Prod.ext ((Value.sameKey_iff string _).mp same) rfl)
        · exact .inl (List.mem_cons_of_mem _ later)
      · rw [if_neg same] at member
        rcases List.mem_cons.mp member with rfl | later
        · exact .inl List.mem_cons_self
        · exact (ih later).imp_left (List.mem_cons_of_mem _)

theorem mem_handles_setHandle {found : Handle}
    (member : found ∈ (setHandle id handle index).map Prod.snd) :
    found = handle ∨ found ∈ index.map Prod.snd := by
  induction index with
  | nil => exact .inl (List.mem_singleton.mp member)
  | cons entry rest ih =>
      rw [setHandle] at member
      by_cases same : Value.sameKey entry.1 id = true
      · rw [if_pos same] at member
        exact (List.mem_cons.mp member).imp_right (List.mem_cons_of_mem _)
      · rw [if_neg same] at member
        rcases List.mem_cons.mp member with rfl | later
        · exact .inr List.mem_cons_self
        · exact (ih later).imp_right (List.mem_cons_of_mem _)

theorem nodup_handles_setHandle (nodup : (index.map Prod.snd).Nodup)
    (fresh : handle ∉ index.map Prod.snd) :
    ((setHandle id handle index).map Prod.snd).Nodup := by
  induction index with
  | nil => exact List.nodup_singleton handle
  | cons entry rest ih =>
      obtain ⟨notLater, nodup'⟩ := List.nodup_cons.mp nodup
      rw [List.map_cons, List.mem_cons, not_or] at fresh
      rw [setHandle]
      by_cases same : Value.sameKey entry.1 id = true
      · rw [if_pos same]
        exact List.nodup_cons.mpr ⟨fresh.2, nodup'⟩
      · rw [if_neg same]
        refine List.nodup_cons.mpr ⟨fun member => ?_, ih nodup' fresh.2⟩
        rcases mem_handles_setHandle member with equal | later
        · exact fresh.1 equal.symm
        · exact notLater later

theorem nodup_keys_setHandle (string : id.IsString) (nodup : (index.map Prod.fst).Nodup) :
    ((setHandle id handle index).map Prod.fst).Nodup := by
  induction index with
  | nil => exact List.nodup_singleton id
  | cons entry rest ih =>
      obtain ⟨notLater, nodup'⟩ := List.nodup_cons.mp nodup
      rw [setHandle]
      by_cases same : Value.sameKey entry.1 id = true
      · rw [if_pos same]
        exact nodup
      · rw [if_neg same]
        refine List.nodup_cons.mpr ⟨fun member => ?_, ih nodup'⟩
        obtain ⟨found, at', equal⟩ := List.mem_map.mp member
        rcases mem_setHandle string at' with old | rfl
        · exact notLater (equal ▸ List.mem_map_of_mem old)
        · exact same ((Value.sameKey_iff string _).mpr equal.symm)

end Index

/-! ## Soundness -/

/-- That the index and the pool of a registry fit together. -/
structure Sound (registry : Registry) : Prop where
  strings : ∀ entry ∈ registry.index, entry.1.IsString
  keys : (registry.index.map Prod.fst).Nodup
  below : ∀ entry ∈ registry.index, entry.2 < registry.pool.length
  handles : (registry.index.map Prod.snd).Nodup
  named : ∀ entry ∈ registry.index, (registry.session entry.2).id = entry.1
  sessions : ∀ entry ∈ registry.index, (registry.session entry.2).Sound

/-- The window and the messages of the session registered under an identifier. -/
def view (registry : Registry) (id : Value) : Option (Nat × List Message) :=
  (registry.find? id).map fun session => (session.window.size, session.messages)

theorem sound_empty (maxHistory defaultId : Value) : (empty maxHistory defaultId).Sound where
  strings := nofun
  keys := List.nodup_nil
  below := nofun
  handles := List.nodup_nil
  named := nofun
  sessions := nofun

section Lookup

variable {registry : Registry} {id other : Value} {handle : Handle}

/-- No two identifiers lead to the same session. -/
theorem Sound.id_eq (sound : registry.Sound) (string : id.IsString) (string' : other.IsString)
    (found : registry.handle? id = some handle) (found' : registry.handle? other = some handle) :
    other = id := by
  have same := List.inj_on_of_nodup_map sound.handles (mem_of_lookup string' found')
    (mem_of_lookup string found) rfl
  exact congrArg Prod.fst same

theorem view_of_handle? (found : registry.handle? id = some handle) :
    registry.view id =
      some ((registry.session handle).window.size, (registry.session handle).messages) := by
  rw [view, find?, found]
  rfl

theorem view_of_absent (absent : registry.handle? id = none) : registry.view id = none := by
  rw [view, find?, absent]
  rfl

theorem exists_handle_of_view {seen : Nat × List Message} (held : registry.view id = some seen) :
    ∃ handle, registry.handle? id = some handle := by
  cases found : registry.handle? id with
  | some handle => exact ⟨handle, rfl⟩
  | none =>
      rw [view_of_absent found] at held
      cases held

end Lookup

/-! ## Registering a session -/

section Registering

variable {registry : Registry} {session : Session} {other : Value} {handle : Handle}

theorem session_register_old (below : handle < registry.pool.length) :
    (registry.register session).session handle = registry.session handle := by
  unfold Registry.session register
  rw [List.getD_append _ _ _ _ below]

theorem session_register_new :
    (registry.register session).session registry.pool.length = session := by
  unfold Registry.session register
  rw [List.getD_append_right _ _ _ _ (Nat.le_refl _), Nat.sub_self]
  rfl

/-- A registry stays sound when a sound session is registered. -/
theorem Sound.register (sound : registry.Sound) (string : session.id.IsString)
    (proper : session.Sound) : (registry.register session).Sound := by
  have entries : ∀ entry ∈ (registry.register session).index,
      entry ∈ registry.index ∨ entry = (session.id, registry.pool.length) :=
    fun entry member => mem_setHandle string member
  have fresh : registry.pool.length ∉ registry.index.map Prod.snd := by
    intro member
    obtain ⟨entry, at', equal⟩ := List.mem_map.mp member
    exact absurd (sound.below entry at') (equal ▸ Nat.lt_irrefl _)
  constructor
  case strings =>
    intro entry member
    rcases entries entry member with old | rfl
    · exact sound.strings entry old
    · exact string
  case keys => exact nodup_keys_setHandle string sound.keys
  case below =>
    intro entry member
    have longer : (registry.register session).pool.length = registry.pool.length + 1 :=
      List.length_append
    rcases entries entry member with old | rfl
    · exact longer ▸ Nat.lt_succ_of_lt (sound.below entry old)
    · exact longer ▸ Nat.lt_succ_self _
  case handles => exact nodup_handles_setHandle sound.handles fresh
  case named =>
    intro entry member
    rcases entries entry member with old | rfl
    · rw [session_register_old (sound.below entry old)]
      exact sound.named entry old
    · rw [session_register_new]
  case sessions =>
    intro entry member
    rcases entries entry member with old | rfl
    · rw [session_register_old (sound.below entry old)]
      exact sound.sessions entry old
    · rw [session_register_new]
      exact proper

theorem handle?_register_self (string : session.id.IsString) :
    (registry.register session).handle? session.id = some registry.pool.length :=
  lookup_setHandle_self string

theorem find?_register_self (string : session.id.IsString) :
    (registry.register session).find? session.id = some session := by
  rw [find?, handle?_register_self string]
  exact congrArg some session_register_new

theorem view_register_self (string : session.id.IsString) :
    (registry.register session).view session.id =
      some (session.window.size, session.messages) := by
  rw [view, find?_register_self string]
  rfl

/-- Registering a session changes what is under its own identifier only. -/
theorem find?_register_other (sound : registry.Sound) (string : session.id.IsString)
    (string' : other.IsString) (ne : other ≠ session.id) :
    (registry.register session).find? other = registry.find? other := by
  have same : (registry.register session).handle? other = registry.handle? other :=
    lookup_setHandle_other string string' ne
  rw [find?, find?, same]
  cases found : registry.handle? other with
  | none => rfl
  | some handle =>
      have below := sound.below _ (mem_of_lookup string' found)
      exact congrArg some (session_register_old below)

theorem view_register_other (sound : registry.Sound) (string : session.id.IsString)
    (string' : other.IsString) (ne : other ≠ session.id) :
    (registry.register session).view other = registry.view other := by
  rw [view, view, find?_register_other sound string string' ne]

end Registering

/-! ## Changing a session -/

section Changing

variable {registry : Registry} {id other : Value} {handle : Handle} {f : Session → Session}

theorem session_modify_self (below : handle < registry.pool.length) :
    (registry.modify handle f).session handle = f (registry.session handle) := by
  unfold Registry.session modify
  rw [List.getD_eq_getElem?_getD, List.getD_eq_getElem?_getD, List.getElem?_modify,
    List.getElem?_eq_getElem below]
  simp

theorem session_modify_other {elsewhere : Handle} (ne : handle ≠ elsewhere) :
    (registry.modify handle f).session elsewhere = registry.session elsewhere := by
  unfold Registry.session modify
  rw [List.getD_eq_getElem?_getD, List.getD_eq_getElem?_getD, List.getElem?_modify]
  simp [ne]

/-- A registry stays sound when a session is changed that keeps its name and stays sound. -/
theorem Sound.modify (sound : registry.Sound) (sameId : ∀ session, (f session).id = session.id)
    (proper : ∀ session : Session, session.Sound → (f session).Sound) :
    (registry.modify handle f).Sound := by
  have length : (registry.modify handle f).pool.length = registry.pool.length :=
    List.length_modify ..
  constructor
  case strings => exact sound.strings
  case keys => exact sound.keys
  case below => exact fun entry member => length ▸ sound.below entry member
  case handles => exact sound.handles
  case named =>
    intro entry member
    by_cases changed : handle = entry.2
    · subst changed
      rw [session_modify_self (sound.below entry member), sameId]
      exact sound.named entry member
    · rw [session_modify_other changed]
      exact sound.named entry member
  case sessions =>
    intro entry member
    by_cases changed : handle = entry.2
    · subst changed
      rw [session_modify_self (sound.below entry member)]
      exact proper _ (sound.sessions entry member)
    · rw [session_modify_other changed]
      exact sound.sessions entry member

/-- Changing a session changes what is under its own identifier only. -/
theorem view_modify_other (sound : registry.Sound) (string : id.IsString)
    (string' : other.IsString) (found : registry.handle? id = some handle) (ne : other ≠ id) :
    (registry.modify handle f).view other = registry.view other := by
  have same : (registry.modify handle f).handle? other = registry.handle? other := rfl
  cases found' : registry.handle? other with
  | none => rw [view_of_absent (same.trans found'), view_of_absent found']
  | some elsewhere =>
      have differs : handle ≠ elsewhere := by
        rintro rfl
        exact ne (sound.id_eq string string' found found')
      rw [view_of_handle? (same.trans found'), view_of_handle? found',
        session_modify_other differs]

theorem view_modify_self (sound : registry.Sound) (string : id.IsString)
    (found : registry.handle? id = some handle) :
    (registry.modify handle f).view id =
      some ((f (registry.session handle)).window.size, (f (registry.session handle)).messages) := by
  have same : (registry.modify handle f).handle? id = some handle := found
  have below := sound.below _ (mem_of_lookup string found)
  rw [view_of_handle? same, session_modify_self below]

end Changing

/-! ## Operations -/

/-- The window and the messages under an identifier once a session is opened there. -/
def openedView (registry : Registry) (id : Value) : Except Fault (Nat × List Message) :=
  match registry.view id with
  | some place => .ok place
  | none => (Window.ofValue registry.maxHistory).map fun window => (window.size, [])

/-- What opening a session does to a sound registry. -/
structure Opens (registry : Registry) (id : Value) (place : Nat × List Message) (handle : Handle)
    (opened : Registry) : Prop where
  sound : opened.Sound
  found : opened.handle? id = some handle
  maxHistory_eq : opened.maxHistory = registry.maxHistory
  defaultId_eq : opened.defaultId = registry.defaultId
  view_self : opened.view id = some place
  view_other : ∀ other : Value, other.IsString → other ≠ id →
    opened.view other = registry.view other

section Operations

variable {registry : Registry} {id : Value} {handle : Handle}

/-- A text means itself. -/
theorem resolveId_of_isString (string : id.IsString) : registry.resolveId id = id := by
  cases id with
  | null => exact string.elim
  | _ => rfl

theorem getOrCreate_of_found (string : (registry.resolveId id).IsString)
    (found : registry.handle? (registry.resolveId id) = some handle) :
    registry.getOrCreate id = .ok (handle, registry) := by
  unfold getOrCreate key
  simp only [Value.isHashable_of_isString string, if_true, bind, Except.bind, found]
  rfl

theorem getOrCreate_of_absent (string : (registry.resolveId id).IsString)
    (absent : registry.handle? (registry.resolveId id) = none) :
    registry.getOrCreate id =
      (Session.make (registry.resolveId id) registry.maxHistory).map fun session =>
        (registry.pool.length, registry.register session) := by
  unfold getOrCreate key
  simp only [Value.isHashable_of_isString string, if_true, bind, Except.bind, absent]
  cases Session.make (registry.resolveId id) registry.maxHistory <;> rfl

/-- **Opening a session adds an empty one at most.**  It fails exactly where there is none yet and
the window for new ones is refused. -/
theorem getOrCreate_spec (sound : registry.Sound) (string : (registry.resolveId id).IsString) :
    match registry.openedView (registry.resolveId id) with
    | .error fault => registry.getOrCreate id = .error fault
    | .ok place => ∃ handle opened, registry.getOrCreate id = .ok (handle, opened) ∧
        registry.Opens (registry.resolveId id) place handle opened := by
  cases found : registry.handle? (registry.resolveId id) with
  | some handle =>
      rw [openedView, view_of_handle? found]
      exact ⟨handle, registry, getOrCreate_of_found string found, sound, found, rfl, rfl,
        view_of_handle? found, fun _ _ _ => rfl⟩
  | none =>
      have created := getOrCreate_of_absent string found
      rw [openedView, view_of_absent found]
      cases made : Window.ofValue registry.maxHistory with
      | error fault =>
          rw [Session.make, made] at created
          exact created
      | ok window =>
          have proper : (Session.mk (registry.resolveId id) window []).Sound :=
            ⟨Nat.zero_le _, Window.size_of_isTruthValue made⟩
          rw [Session.make, made] at created
          exact ⟨_, _, created, sound.register string proper,
            handle?_register_self string, rfl, rfl, view_register_self string,
            fun other string' ne => view_register_other sound string string' ne⟩

/-- A turn adds its two messages under its own identifier. -/
theorem view_addTurn_self {size : Nat} {messages : List Message} (sound : registry.Sound)
    (string : id.IsString) (found : registry.handle? id = some handle)
    (before : registry.view id = some (size, messages)) (user assistant : Value) :
    (registry.addTurn handle user assistant).view id =
      some (size, recent size (messages ++ [⟨.user, user⟩, ⟨.assistant, assistant⟩])) := by
  rw [view_of_handle? found] at before
  cases before
  rw [addTurn, view_modify_self sound string found]
  unfold Session.push Session.fit
  dsimp only
  rw [recent_append_recent, List.append_assoc]
  rfl

theorem Sound.addTurn (sound : registry.Sound) (handle : Handle) (user assistant : Value) :
    (registry.addTurn handle user assistant).Sound :=
  sound.modify (fun _ => rfl) fun _ proper => (proper.push _).push _

theorem Sound.session_id (sound : registry.Sound) (string : id.IsString)
    (found : registry.handle? id = some handle) : (registry.session handle).id = id :=
  sound.named _ (mem_of_lookup string found)

theorem promptFor_of_view {size : Nat} {messages : List Message}
    (found : registry.handle? id = some handle) (seen : registry.view id = some (size, messages))
    (pending : List Message) :
    registry.promptFor handle pending =
      Message.renderAll (recent size (messages ++ pending)) := by
  rw [view_of_handle? found] at seen
  cases seen
  rfl

theorem history_of_view (string : (registry.resolveId id).IsString) :
    registry.history id =
      .ok (((registry.view (registry.resolveId id)).map Prod.snd).getD []) := by
  unfold history key
  rw [if_pos (Value.isHashable_of_isString string), view, Option.map_map]
  rfl

end Operations

end Registry

end RecallChat
