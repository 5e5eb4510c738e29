import RecallChat.Proofs.Chat.Exchange

/-!
# Alike states

Two states of a conversation are alike when their memories are the same and their registries hold
the same under every identifier, with the same settings for new sessions (`Registry.Alike`).  Where
the sessions stand in the pool, and in what order they were registered, does not matter.

Turns cannot tell alike states apart: they have the same outcome and lead to alike states
(`turn_alike`), so whole conversations have the same exchanges (`converse_alike`).  A state is alike
to itself, so conversations keep registries sound (`converse_sound`).
-/

set_option autoImplicit false

namespace RecallChat

/-- That two sound registries hold the same under every identifier. -/
structure Registry.Alike (registry other : Registry) : Prop where
  sound : registry.Sound
  sound' : other.Sound
  maxHistory_eq : other.maxHistory = registry.maxHistory
  defaultId_eq : other.defaultId = registry.defaultId
  view_eq : ∀ id : Value, id.IsString → other.view id = registry.view id

/-- That two scenes differ in the arrangement of their sessions only. -/
structure Alike {σ : Type} (scene other : Scene (Conversing σ)) : Prop where
  inner_eq : other.world.inner = scene.world.inner
  journal_eq : other.journal = scene.journal
  memory_eq : other.world.chat.memory = scene.world.chat.memory
  registry : scene.world.chat.registry.Alike other.world.chat.registry

/-! ## Registries -/

namespace Registry

section Likeness

variable {registry other : Registry} {id : Value}

theorem Alike.resolveId_eq (alike : registry.Alike other) (id : Value) :
    other.resolveId id = registry.resolveId id := by
  unfold resolveId
  rw [alike.defaultId_eq]

theorem Alike.openedView_eq (alike : registry.Alike other) (string : id.IsString) :
    other.openedView id = registry.openedView id := by
  unfold openedView
  rw [alike.view_eq id string, alike.maxHistory_eq]

/-- Alike registries stay alike when a session is opened in both. -/
theorem Alike.opens (alike : registry.Alike other) {place : Nat × List Message}
    {handle handle' : Handle} {opened opened' : Registry}
    (opens : registry.Opens id place handle opened)
    (opens' : other.Opens id place handle' opened') : opened.Alike opened' where
  sound := opens.sound
  sound' := opens'.sound
  maxHistory_eq := by
    rw [opens.maxHistory_eq, opens'.maxHistory_eq, alike.maxHistory_eq]
  defaultId_eq := by
    rw [opens.defaultId_eq, opens'.defaultId_eq, alike.defaultId_eq]
  view_eq := by
    intro asked string
    by_cases same : asked = id
    · rw [same, opens.view_self, opens'.view_self]
    · rw [opens.view_other asked string same, opens'.view_other asked string same,
        alike.view_eq asked string]

/-- Alike registries stay alike when the same turn is added to the same session of both. -/
theorem Alike.addTurn (alike : registry.Alike other) (string : id.IsString)
    {handle handle' : Handle} (found : registry.handle? id = some handle)
    (found' : other.handle? id = some handle') (user assistant : Value) :
    (registry.addTurn handle user assistant).Alike (other.addTurn handle' user assistant) where
  sound := alike.sound.addTurn handle user assistant
  sound' := alike.sound'.addTurn handle' user assistant
  maxHistory_eq := alike.maxHistory_eq
  defaultId_eq := alike.defaultId_eq
  view_eq := by
    intro asked string'
    by_cases same : asked = id
    · subst same
      have seen := view_of_handle? found
      rw [view_addTurn_self alike.sound string found seen,
        view_addTurn_self alike.sound' string found' ((alike.view_eq asked string).trans seen)]
    · have kept : (registry.addTurn handle user assistant).view asked = registry.view asked :=
        view_modify_other alike.sound string string' found same
      have kept' : (other.addTurn handle' user assistant).view asked = other.view asked :=
        view_modify_other alike.sound' string string' found' same
      rw [kept, kept', alike.view_eq asked string']

theorem Alike.promptFor_eq (alike : registry.Alike other) (string : id.IsString)
    {handle handle' : Handle} (found : registry.handle? id = some handle)
    (found' : other.handle? id = some handle') (pending : List Message) :
    other.promptFor handle' pending = registry.promptFor handle pending := by
  have seen := view_of_handle? found
  rw [promptFor_of_view found seen, promptFor_of_view found' ((alike.view_eq id string).trans seen)]

end Likeness

end Registry

/-! ## Turns -/

namespace Conversation

open RecallChat.Action

variable {σ : Type} (conversation : Conversation σ)

/-- Preparing a reply depends on the memory and the session's prompt, and changes no state. -/
theorem prepare_alike (scene other : Scene (Conversing σ)) {handle handle' : Handle}
    (message : Value) (inner_eq : other.world.inner = scene.world.inner)
    (journal_eq : other.journal = scene.journal)
    (memory_eq : other.world.chat.memory = scene.world.chat.memory)
    (prompt_eq : other.world.chat.registry.promptFor handle' [⟨.user, message⟩] =
      scene.world.chat.registry.promptFor handle [⟨.user, message⟩]) :
    ∃ outcome inner journal,
      (conversation.prepare handle message).perform scene =
        (outcome, ⟨⟨inner, scene.world.chat⟩, journal⟩) ∧
      (conversation.prepare handle' message).perform other =
        (outcome, ⟨⟨inner, other.world.chat⟩, journal⟩) := by
  have same : sceneOf Conversing.inner other = sceneOf Conversing.inner scene := by
    rw [sceneOf, sceneOf, inner_eq, journal_eq]
  rcases embedded : (conversation.embed message).perform (sceneOf Conversing.inner scene) with
    ⟨fault | value, middle⟩
  · exact ⟨_, _, _, perform_prepare_of_unembedded scene handle embedded,
      perform_prepare_of_unembedded other handle' (same ▸ embedded)⟩
  · cases searched : scene.world.chat.memory.search value (.ofValue conversation.topK) with
    | error fault =>
        exact ⟨_, _, _, perform_prepare_of_unsearched scene handle embedded searched,
          perform_prepare_of_unsearched other handle' (same ▸ embedded) (memory_eq ▸ searched)⟩
    | ok retrieved =>
        rcases replied : (conversation.generate (buildPrompt (retrieved.map Prod.fst)
          (scene.world.chat.registry.promptFor handle [⟨.user, message⟩]))
          conversation.maxTokens).perform middle with ⟨outcome, after⟩
        have prepared := perform_prepare_of_embedded scene handle embedded searched replied
        have prepared' := perform_prepare_of_embedded other handle' (same ▸ embedded)
          (memory_eq ▸ searched) (prompt_eq ▸ replied)
        rw [prompt_eq] at prepared'
        exact ⟨_, _, _, prepared, prepared'⟩

/-- **Turns cannot tell alike states apart.** -/
theorem turn_alike {scene other : Scene (Conversing σ)} (alike : Alike scene other)
    (message : Value) {sessionId : Value}
    (string : (scene.world.chat.registry.resolveId sessionId).IsString) :
    ∃ outcome after after',
      (conversation.turn message sessionId).perform scene = (outcome, after) ∧
      (conversation.turn message sessionId).perform other = (outcome, after') ∧
      Alike after after' ∧
      after.world.chat.registry.defaultId = scene.world.chat.registry.defaultId := by
  have meant := alike.registry.resolveId_eq sessionId
  have spec := Registry.getOrCreate_spec alike.registry.sound string
  have spec' := Registry.getOrCreate_spec alike.registry.sound' (meant.symm ▸ string)
  rw [meant, alike.registry.openedView_eq string] at spec'
  cases place : scene.world.chat.registry.openedView
    (scene.world.chat.registry.resolveId sessionId) with
  | error fault =>
      rw [place] at spec spec'
      exact ⟨_, _, _, perform_turn_of_unopened scene spec, perform_turn_of_unopened other spec',
        alike, rfl⟩
  | ok place =>
      rw [place] at spec spec'
      obtain ⟨handle, opened, created, opens⟩ := spec
      obtain ⟨handle', opened', created', opens'⟩ := spec'
      have likeness := alike.registry.opens opens opens'
      have id_eq := likeness.sound.session_id string opens.found
      have id_eq' := likeness.sound'.session_id string opens'.found
      obtain ⟨outcome, inner, journal, prepared, prepared'⟩ := prepare_alike conversation
        ⟨⟨scene.world.inner, ⟨opened, scene.world.chat.memory⟩⟩, scene.journal⟩
        ⟨⟨other.world.inner, ⟨opened', other.world.chat.memory⟩⟩, other.journal⟩
        message alike.inner_eq alike.journal_eq alike.memory_eq
        (likeness.promptFor_eq string opens.found opens'.found _)
      cases outcome with
      | error fault =>
          have turned := perform_turn_of_unprepared scene created prepared
          have turned' := perform_turn_of_unprepared other created' prepared'
          rw [id_eq] at turned
          rw [id_eq'] at turned'
          exact ⟨_, _, _, turned, turned', ⟨rfl, rfl, alike.memory_eq, likeness⟩,
            opens.defaultId_eq⟩
      | ok turn =>
          have grown := likeness.addTurn string opens.found opens'.found message
            (.text turn.response)
          cases added : scene.world.chat.memory.add message turn.embedding with
          | error fault =>
              have turned := perform_turn_of_refused scene created prepared added
              have turned' := perform_turn_of_refused other created' prepared'
                (alike.memory_eq.symm ▸ added)
              exact ⟨_, _, _, turned, turned', ⟨rfl, rfl, alike.memory_eq, grown⟩,
                opens.defaultId_eq⟩
          | ok memory =>
              have turned := perform_turn_of_prepared scene created prepared added rfl
              have turned' := perform_turn_of_prepared other created' prepared'
                (alike.memory_eq.symm ▸ added) rfl
              rw [id_eq] at turned
              rw [id_eq'] at turned'
              exact ⟨_, _, _, turned, turned', ⟨rfl, rfl, rfl, grown⟩, opens.defaultId_eq⟩

/-- Exchanges cannot tell alike states apart. -/
theorem exchange_alike {scene other : Scene (Conversing σ)} (alike : Alike scene other)
    {call : Call} (string : (scene.world.chat.registry.resolveId call.sessionId).IsString) :
    (conversation.exchange call other).1 = (conversation.exchange call scene).1 ∧
      Alike (conversation.exchange call scene).2 (conversation.exchange call other).2 ∧
      (conversation.exchange call scene).2.world.chat.registry.defaultId =
        scene.world.chat.registry.defaultId := by
  obtain ⟨outcome, after, after', turned, turned', alike', kept⟩ :=
    turn_alike conversation alike call.message string
  have unrecorded : Alike
      (sceneOf Conversing.unrecorded scene : Scene (Conversing (Recorded TurnRequest σ)))
      (sceneOf Conversing.unrecorded other) :=
    ⟨congrArg (Recorded.mk · []) alike.inner_eq, alike.journal_eq, alike.memory_eq,
      alike.registry⟩
  obtain ⟨_, recorded, recorded', written, written', sameRecords, _⟩ :=
    turn_alike conversation.recorded unrecorded call.message string
  unfold exchange
  rw [turned, turned', written, written']
  dsimp only
  rw [sameRecords.inner_eq]
  exact ⟨rfl, alike', kept⟩

/-- **Conversations that start from alike states have the same exchanges**, and end in alike
states. -/
theorem converse_alike {scene other : Scene (Conversing σ)} (alike : Alike scene other)
    {calls : List Call}
    (strings : ∀ call ∈ calls,
      (scene.world.chat.registry.resolveId call.sessionId).IsString) :
    (conversation.converse calls other).1 = (conversation.converse calls scene).1 ∧
      Alike (conversation.converse calls scene).2 (conversation.converse calls other).2 := by
  induction calls generalizing scene other with
  | nil => exact ⟨rfl, alike⟩
  | cons call rest ih =>
      obtain ⟨same, alike', kept⟩ :=
        exchange_alike conversation alike (strings call List.mem_cons_self)
      have resolve_eq : ∀ id,
          (conversation.exchange call scene).2.world.chat.registry.resolveId id =
            scene.world.chat.registry.resolveId id := by
        intro id
        unfold Registry.resolveId
        rw [kept]
      obtain ⟨sameRest, last⟩ := ih alike' fun later member =>
        (resolve_eq later.sessionId).symm ▸ strings later (List.mem_cons_of_mem call member)
      exact ⟨List.cons_eq_cons.mpr ⟨same, sameRest⟩, last⟩

/-- Conversations keep registries sound. -/
theorem converse_sound {scene : Scene (Conversing σ)}
    (sound : scene.world.chat.registry.Sound) {calls : List Call}
    (strings : ∀ call ∈ calls,
      (scene.world.chat.registry.resolveId call.sessionId).IsString) :
    (conversation.converse calls scene).2.world.chat.registry.Sound := by
  have itself : Alike scene scene :=
    ⟨rfl, rfl, rfl, ⟨sound, sound, rfl, rfl, fun _ _ => rfl⟩⟩
  exact (converse_alike conversation itself strings).2.registry.sound

end Conversation

end RecallChat
