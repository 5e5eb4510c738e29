import RecallChat.Proofs.Chat.Isolation
import RecallChat.Proofs.Chat.Reaching
import RecallChat.Proofs.Chat.Registering

/-!
# Looking sessions up

In a reachable registry a session that is registered is found, and one that is not is created empty,
with the window of the registry, after all others (`Registry.LooksUp`).  The window is only made with
the first session, though: a registry can be configured with a size that no window has, and then it
is the look-up of a new session that fails.

A turn looks its session up before anything else.  With a session it asks the embedder, so that what
comes before the embedding can only fail as a look-up does (`lookup_course`).
-/

set_option autoImplicit false

namespace RecallChat

/-! ## Windows of whole numbers -/

/-- A whole number is the size of a window, or no window has it. -/
theorem Window.ofValue_integer_cases (size : Int) :
    (∃ window, Window.ofValue (.integer size) = .ok window ∧ window.toValue = .integer size) ∨
      ∃ fault, Window.ofValue (.integer size) = .error fault ∧ (size < 1 ∨ 2 ^ 63 ≤ size) := by
  by_cases inside : 1 ≤ size ∧ size < 2 ^ 63
  · obtain ⟨count, rfl⟩ := Int.eq_ofNat_of_zero_le (Int.le_trans (by decide) inside.1)
    have positive : 0 < count := by omega
    have bounded : count < 2 ^ 63 := by omega
    exact .inl ⟨_, Window.ofValue_integer positive bounded, rfl⟩
  · have outside : size < 1 ∨ 2 ^ 63 ≤ size := by omega
    cases made : Window.ofValue (.integer size) with
    | error fault => exact .inr ⟨fault, rfl, outside⟩
    | ok window =>
        exfalso
        unfold Window.ofValue at made
        simp only [Value.number?] at made
        split at made
        · obtain ⟨_, _, refused⟩ := Outcome.bind_eq_ok.mp made
          cases refused
        · split at made
          · next bounds => omega
          · cases made

namespace Registry

/-! ## Looking up -/

/-- What looking a session up comes to in a registry that is configured with a size. -/
inductive LooksUp (registry : Registry) (size : Int) (id : Value) :
    Except Fault (Handle × Registry) → Prop
  /-- The session is registered, and nothing changes. -/
  | found {handle : Handle} (registered : registry.handle? id = some handle)
      (named : (registry.session handle).id = id) :
      LooksUp registry size id (.ok (handle, registry))
  /-- An empty session is registered after all others, which stay as they are. -/
  | created {handle : Handle} {opened : Registry} {window : Window}
      (absent : registry.handle? id = none) (size_eq : window.toValue = .integer size)
      (registered : opened.handle? id = some handle)
      (session_eq : opened.session handle = ⟨id, window, []⟩)
      (ids_eq : opened.ids = registry.ids ++ [id])
      (find?_other : ∀ other : Value, other.IsString → other ≠ id →
        opened.find? other = registry.find? other) :
      LooksUp registry size id (.ok (handle, opened))
  /-- The session is new, and no window has the size. -/
  | refused {fault : Fault} (absent : registry.handle? id = none)
      (unmade : Window.ofValue (.integer size) = .error fault)
      (outside : size < 1 ∨ 2 ^ 63 ≤ size) : LooksUp registry size id (.error fault)

/-- A sound registry with a size looks every session up. -/
theorem Sound.looksUp {registry : Registry} (sound : registry.Sound) {size : Int}
    (configured : registry.maxHistory = .integer size) {id : Value}
    (string : (registry.resolveId id).IsString) :
    registry.LooksUp size (registry.resolveId id) (registry.getOrCreate id) := by
  cases found : registry.handle? (registry.resolveId id) with
  | some handle =>
      rw [getOrCreate_of_found string found]
      exact .found found (sound.session_id string found)
  | none =>
      rw [getOrCreate_of_absent string found, Session.make, configured]
      rcases Window.ofValue_integer_cases size with ⟨window, made, size_eq⟩ | ⟨fault, unmade, outside⟩
      · rw [made]
        have added : (registry.register ⟨registry.resolveId id, window, []⟩).ids =
            registry.ids ++ [registry.resolveId id] := by
          have absent : lookup registry.index (registry.resolveId id) = none := found
          have keys : (registry.register ⟨registry.resolveId id, window, []⟩).ids = registry.ids ++
              if (lookup registry.index (registry.resolveId id)).isNone then
                [registry.resolveId id] else [] :=
            keys_setHandle registry.pool.length
          rw [absent] at keys
          exact keys
        exact .created found size_eq (handle?_register_self string) session_register_new added
          fun other string' ne => find?_register_other sound string string' ne
      · rw [unmade]
        exact .refused found unmade outside

end Registry

/-! ## What a turn asks first -/

namespace Conversation

variable {σ : Type} (conversation : Conversation σ) {call : Call} {scene : Scene (Conversing σ)}

/-- Without a session nothing is asked, and nothing changes. -/
theorem exchange_of_unopened {fault : Fault}
    (refused : scene.world.chat.registry.getOrCreate call.sessionId = .error fault) :
    conversation.exchange call scene = (⟨call, [], .error fault⟩, scene) := by
  have turned : (conversation.recorded.turn call.message call.sessionId).perform
      (Action.sceneOf Conversing.unrecorded scene) =
        (.error fault, Action.sceneOf Conversing.unrecorded scene) :=
    perform_turn_of_unopened _ refused
  exact exchange_eq_recorded conversation call scene turned

/-- With a session the embedder is asked before anything else. -/
theorem exchange_asks {handle : Handle} {opened : Registry}
    (created : scene.world.chat.registry.getOrCreate call.sessionId = .ok (handle, opened)) :
    ∃ answer rest, (conversation.exchange call scene).1.requests =
      .embedding call.message answer :: rest := by
  let unasked : Scene (Conversing (Recorded TurnRequest σ)) :=
    ⟨⟨⟨scene.world.inner, []⟩, ⟨opened, scene.world.chat.memory⟩⟩, scene.journal⟩
  -- a turn that is not prepared has asked what its preparation has asked
  have unprepared {fault : Fault} {answer : Except Fault Value} {rest : List TurnRequest}
      {after : Scene (Conversing (Recorded TurnRequest σ))}
      (failed : (conversation.recorded.prepare handle call.message).perform unasked =
        (.error fault, after))
      (asked : after.world.inner.requests = .embedding call.message answer :: rest) :
      ∃ answer rest, (conversation.exchange call scene).1.requests =
        .embedding call.message answer :: rest := by
    have turned := perform_turn_of_unprepared (Action.sceneOf Conversing.unrecorded scene) created
      failed
    rw [exchange_eq_recorded conversation call scene turned]
    exact ⟨answer, rest, asked⟩
  rcases embedded : (conversation.embed call.message).perform ⟨scene.world.inner, scene.journal⟩
    with ⟨fault | value, middle⟩
  · exact unprepared (perform_prepare_of_unembedded unasked handle
      (perform_recorded_embed [] embedded)) rfl
  · have answered := perform_recorded_embed [] embedded
    cases searched : scene.world.chat.memory.search value (.ofValue conversation.topK) with
    | error fault =>
        exact unprepared (perform_prepare_of_unsearched unasked handle answered searched) rfl
    | ok retrieved =>
        rcases replied : (conversation.generate (buildPrompt (retrieved.map Prod.fst)
          (opened.promptFor handle [⟨.user, call.message⟩]))
          conversation.maxTokens).perform middle with ⟨outcome, last⟩
        have prepared := perform_prepare_of_embedded unasked handle answered searched
          (perform_recorded_generate _ replied)
        cases outcome with
        | error fault => exact unprepared prepared rfl
        | ok response =>
            -- what is added afterwards asks for nothing
            obtain ⟨ended, turned, same, _⟩ := perform_turn_of_ready
              (Action.sceneOf Conversing.unrecorded scene) created prepared
            rw [exchange_eq_recorded conversation call scene turned]
            exact ⟨_, _, congrArg Recorded.requests same⟩

end Conversation

namespace Registry

/-- **Looking a session up** in a reachable registry gives the session of the identifier that is
meant: the one that is there, or a new one, unless that would have a size that no window has.  So a
turn asks the embedder first, or fails as the look-up of its session does and changes nothing. -/
theorem lookup_course {size : Int} {defaultId : Value} {registry : Registry}
    (reachable : Reachable (.integer size) defaultId registry) (id : Value)
    (string : (resolved defaultId id).IsString) :
    registry.LooksUp size (resolved defaultId id) (registry.getOrCreate id) ∧
      ∀ {σ : Type} (conversation : Conversation σ) (message : Value) (scene : Scene (Conversing σ)),
        scene.world.chat.registry = registry →
          match registry.getOrCreate id with
          | .ok _ => ∃ answer rest, (conversation.exchange ⟨message, id⟩ scene).1.requests =
              .embedding message answer :: rest
          | .error fault =>
              conversation.exchange ⟨message, id⟩ scene = (⟨⟨message, id⟩, [], .error fault⟩, scene) := by
  obtain ⟨sound, settings⟩ := reachable.sound
  have meant : registry.resolveId id = resolved defaultId id := by
    rw [resolveId_eq_resolved, settings.defaultId_eq]
    rfl
  constructor
  · rw [← meant] at string ⊢
    exact sound.looksUp settings.maxHistory_eq string
  · rintro σ conversation message scene rfl
    split
    · next created => exact conversation.exchange_asks created
    · next fault refused => exact conversation.exchange_of_unopened refused

/-- A registry for single messages in which the default session has had a turn. -/
def brief : Registry :=
  ((Operation.addTurn 0 (.text "a") (.text "b")).perform
    ((Operation.getOrCreate .null).perform (empty (.integer 1) (.text "default"))).2).2

theorem brief_reachable : Reachable (.integer 1) (.text "default") brief :=
  .perform (.perform .empty (.getOrCreate .null) (by exact trivial)) (.addTurn 0 _ _) trivial

/-- The default session is found there, and another one is created. -/
theorem brief_lookups :
    brief.handle? (.text "default") = some 0 ∧
      brief.LooksUp 1 (.text "default") (brief.getOrCreate .null) ∧
      brief.handle? (.text "other") = none ∧
      brief.LooksUp 1 (.text "other") (brief.getOrCreate (.text "other")) :=
  ⟨rfl, (lookup_course brief_reachable .null trivial).1, rfl,
    (lookup_course brief_reachable (.text "other") trivial).1⟩

theorem zero_unmade :
    Window.ofValue (.integer 0) = .error (.misuse (.windowTooSmall "0")) := by
  have writable : Value.isWritable (.integer 0) = true := by
    rw [Value.isWritable, decide_eq_true_iff, Int.natAbs_zero]
    exact Nat.pow_pos (by decide)
  have small : (Number.integer 0).less (.integer 1) = true := rfl
  unfold Window.ofValue
  simp only [Value.number?, small, if_true]
  rw [Value.inWords, if_pos writable]
  rfl

/-- A registry can be made with a size that no window has, and then a look-up fails, and a turn before
its embedding. -/
theorem zero_size_refused :
    Reachable (.integer 0) (.text "default") (empty (.integer 0) (.text "default")) ∧
      (empty (.integer 0) (.text "default")).getOrCreate .null =
        .error (.misuse (.windowTooSmall "0")) ∧
      (Conversation.constant.exchange ⟨.text "hi", .null⟩
        ⟨⟨(), ⟨empty (.integer 0) (.text "default"), .empty⟩⟩, .empty⟩).1 =
          ⟨⟨.text "hi", .null⟩, [], .error (.misuse (.windowTooSmall "0"))⟩ := by
  have refused : (empty (.integer 0) (.text "default")).getOrCreate .null =
      .error (.misuse (.windowTooSmall "0")) := by
    rw [getOrCreate_of_absent (by exact trivial) rfl, Session.make, empty, zero_unmade]
    rfl
  let call : Call := ⟨.text "hi", .null⟩
  let scene : Scene (Conversing Unit) :=
    ⟨⟨(), ⟨empty (.integer 0) (.text "default"), .empty⟩⟩, .empty⟩
  have unopened : Conversation.constant.exchange call scene = (⟨call, [], _⟩, scene) :=
    Conversation.constant.exchange_of_unopened refused
  exact ⟨.empty, refused, congrArg Prod.fst unopened⟩

end Registry

end RecallChat
