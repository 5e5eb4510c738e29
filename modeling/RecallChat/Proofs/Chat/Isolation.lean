import RecallChat.Proofs.Chat.Failure
import RecallChat.Proofs.Chat.Law

/-!
# Sessions that do not meet

All sessions of a conversation share a registry and a memory.  Where no memories are retrieved they
do not notice each other: with an embedder and a generator that are functions, a turn is a function
of its message and of what its own session holds (`solo`), and it changes what its own session holds
and nothing that other sessions hold (`passage_solo`).

So the calls of one session have the same outcomes and the same prompts, and leave the same history,
whether the calls of other sessions are made among them or not (`passages_isolated`).
-/

set_option autoImplicit false

namespace RecallChat

/-! ## The calls of a session -/

/-- Whether a call is made in the session of an identifier. -/
def Call.isOf (call : Call) (defaultId id : Value) : Bool :=
  Value.sameKey (call.session defaultId) id

/-- The calls made in the session of an identifier. -/
def Call.ofSession (defaultId id : Value) (calls : List Call) : List Call :=
  calls.filter fun call => call.isOf defaultId id

/-- A call with the prompts that the generator was given for it, and how its turn ended. -/
structure Passage (ρ : Type) where
  call : Call
  prompts : List Text.CodePoints
  outcome : Except Fault (TurnReport ρ)

/-- The passages of the calls made in the session of an identifier. -/
def Passage.ofSession {ρ : Type} (defaultId id : Value) (passages : List (Passage ρ)) :
    List (Passage ρ) :=
  passages.filter fun passage => passage.call.isOf defaultId id

section Own

variable {defaultId id : Value} (string : id.IsString) {call : Call}

include string

theorem Call.isOf_iff : call.isOf defaultId id = true ↔ call.session defaultId = id :=
  Value.sameKey_iff string _

theorem Call.ofSession_cons_self (own : call.session defaultId = id) (rest : List Call) :
    ofSession defaultId id (call :: rest) = call :: ofSession defaultId id rest :=
  List.filter_cons_of_pos ((isOf_iff string).mpr own)

theorem Call.ofSession_cons_other (other : call.session defaultId ≠ id) (rest : List Call) :
    ofSession defaultId id (call :: rest) = ofSession defaultId id rest :=
  List.filter_cons_of_neg fun same => other ((isOf_iff string).mp same)

variable {ρ : Type} {passage : Passage ρ}

theorem Passage.ofSession_cons_self (own : passage.call.session defaultId = id)
    (rest : List (Passage ρ)) :
    ofSession defaultId id (passage :: rest) = passage :: ofSession defaultId id rest :=
  List.filter_cons_of_pos ((Call.isOf_iff string).mpr own)

theorem Passage.ofSession_cons_other (other : passage.call.session defaultId ≠ id)
    (rest : List (Passage ρ)) :
    ofSession defaultId id (passage :: rest) = ofSession defaultId id rest :=
  List.filter_cons_of_neg fun same => other ((Call.isOf_iff string).mp same)

end Own

/-- All passages are of a session whose calls alone are made. -/
theorem Passage.ofSession_eq_self {ρ : Type} {defaultId id : Value} {calls : List Call}
    {passages : List (Passage ρ)}
    (made : passages.map Passage.call = Call.ofSession defaultId id calls) :
    ofSession defaultId id passages = passages := by
  unfold ofSession
  rw [List.filter_eq_self]
  intro passage member
  have called : passage.call ∈ Call.ofSession defaultId id calls :=
    made ▸ List.mem_map_of_mem member
  exact (List.mem_filter.mp called).2

/-! ## Where sessions stand -/

/-- Where a session stands: a window with messages, or a fault where none can be opened. -/
abbrev Standing := Except Fault (Nat × List Message)

namespace Registry

variable {registry : Registry} {id : Value}

/-- The history of a session is what it has once it is opened; where it cannot be opened, there is
none. -/
theorem history_of_standing (string : id.IsString) :
    registry.history id =
      .ok (match registry.openedView id with
        | .ok place => place.2
        | .error _ => []) := by
  have meant : registry.resolveId id = id := resolveId_of_isString string
  have read := history_of_view (meant.symm ▸ string)
  rw [read, meant]
  cases standing : registry.openedView id with
  | ok place => rw [history_of_openedView standing]
  | error fault =>
      unfold openedView at standing
      cases present : registry.view id with
      | none => rfl
      | some old =>
          rw [present] at standing
          cases standing

/-- A session that is there stands where it is. -/
theorem openedView_of_view {place : Nat × List Message} (seen : registry.view id = some place) :
    registry.openedView id = .ok place := by
  unfold openedView
  rw [seen]

/-- That a registry comes from another by a call of one session, which then stands as given. -/
structure Touches (before after : Registry) (id : Value) (standing : Standing) : Prop where
  sound : after.Sound
  maxHistory_eq : after.maxHistory = before.maxHistory
  defaultId_eq : after.defaultId = before.defaultId
  standing_self : after.openedView id = standing
  view_other : ∀ other : Value, other.IsString → other ≠ id →
    after.view other = before.view other

namespace Touches

variable {before opened : Registry} {handle : Handle} {place : Nat × List Message}

theorem refl (sound : registry.Sound) : registry.Touches registry id (registry.openedView id) where
  sound := sound
  maxHistory_eq := rfl
  defaultId_eq := rfl
  standing_self := rfl
  view_other := fun _ _ _ => rfl

/-- Other sessions stand as they did. -/
theorem standing_other {after : Registry} {standing : Standing}
    (touches : before.Touches after id standing) {other : Value} (string : other.IsString)
    (ne : other ≠ id) : after.openedView other = before.openedView other := by
  unfold openedView
  rw [touches.view_other other string ne, touches.maxHistory_eq]

theorem of_opens (opens : before.Opens id place handle opened) :
    before.Touches opened id (.ok place) where
  sound := opens.sound
  maxHistory_eq := opens.maxHistory_eq
  defaultId_eq := opens.defaultId_eq
  standing_self := openedView_of_view opens.view_self
  view_other := opens.view_other

theorem of_addTurn (opens : before.Opens id place handle opened) (string : id.IsString)
    (user assistant : Value) :
    before.Touches (opened.addTurn handle user assistant) id
      (.ok (place.1, recent place.1 (place.2 ++ [⟨.user, user⟩, ⟨.assistant, assistant⟩]))) where
  sound := opens.sound.addTurn handle user assistant
  maxHistory_eq := opens.maxHistory_eq
  defaultId_eq := opens.defaultId_eq
  standing_self :=
    openedView_of_view
      (view_addTurn_self opens.sound string opens.found opens.view_self user assistant)
  view_other := by
    intro other string' ne
    have kept : (opened.addTurn handle user assistant).view other = opened.view other :=
      view_modify_other opens.sound string string' opens.found ne
    rw [kept, opens.view_other other string' ne]

end Touches

end Registry

namespace Conversation

variable {ρ : Type}

/-! ## Functions as components -/

/-- A conversation whose embedder and generator are functions, in a world that keeps the prompts
which the generator is given. -/
def functional (embed : Value → Except Fault Value)
    (reply : Text.CodePoints → Value → Except Fault ρ) (topK maxTokens : Value) :
    Conversation (List Text.CodePoints) ρ where
  embed text := Action.ofExcept (embed text)
  generate prompt limit := do
    Action.change fun prompts => prompts ++ [prompt]
    Action.ofExcept (reply prompt limit)
  topK := topK
  maxTokens := maxTokens

variable [Utterance ρ]

/-- The passage of a call, and the scene after it. -/
def passage (conversation : Conversation (List Text.CodePoints) ρ) (call : Call)
    (scene : Scene (Conversing (List Text.CodePoints))) :
    Passage ρ × Scene (Conversing (List Text.CodePoints)) :=
  let (outcome, after) := (conversation.turn call.message call.sessionId).perform
    ⟨⟨[], scene.world.chat⟩, scene.journal⟩
  (⟨call, after.world.inner, outcome⟩, after)

/-- The passages of calls made one after the other, and the scene after all of them. -/
def passages (conversation : Conversation (List Text.CodePoints) ρ) :
    List Call → Scene (Conversing (List Text.CodePoints)) →
      List (Passage ρ) × Scene (Conversing (List Text.CodePoints))
  | [], scene => ([], scene)
  | call :: rest, scene =>
    let (first, after) := conversation.passage call scene
    let (others, last) := conversation.passages rest after
    (first :: others, last)

/-- How a turn ends once it is prepared: its embedding must be a vector, and its reply have a
length. -/
def settled (id : Value) (prepared : PreparedTurn ρ) : Except Fault (TurnReport ρ) := do
  let _ ← Vector32.ofValue prepared.embedding
  let _ ← Utterance.length prepared.response
  return ⟨prepared.response, id, prepared.retrieved, prepared.prompt⟩

/-- The passage of a call, from where its session stands alone, and where that stands after it. -/
def solo (embed : Value → Except Fault Value) (reply : Text.CodePoints → Value → Except Fault ρ)
    (maxTokens id : Value) (call : Call) (standing : Standing) : Passage ρ × Standing :=
  match standing with
  | .error fault => (⟨call, [], .error fault⟩, .error fault)
  | .ok (size, messages) =>
    match embed call.message with
    | .error fault => (⟨call, [], .error fault⟩, .ok (size, messages))
    | .ok value =>
      let prompt := Message.renderAll (recent size (messages ++ [⟨.user, call.message⟩]))
      match reply prompt maxTokens with
      | .error fault => (⟨call, [prompt], .error fault⟩, .ok (size, messages))
      | .ok response =>
        (⟨call, [prompt], settled id ⟨value, [], prompt, response⟩⟩,
          .ok (size, recent size (messages ++ turnMessages call.message response)))

/-- The passages of the calls of one session, from where it stands alone. -/
def solos (embed : Value → Except Fault Value) (reply : Text.CodePoints → Value → Except Fault ρ)
    (maxTokens id : Value) : List Call → Standing → List (Passage ρ) × Standing
  | [], standing => ([], standing)
  | call :: rest, standing =>
    let (first, after) := solo embed reply maxTokens id call standing
    let (others, last) := solos embed reply maxTokens id rest after
    (first :: others, last)

/-! ## One call -/

theorem solo_call {embed : Value → Except Fault Value}
    {reply : Text.CodePoints → Value → Except Fault ρ} {maxTokens id : Value} {call : Call}
    {standing : Standing} :
    (solo embed reply maxTokens id call standing).1.call = call := by
  unfold solo
  cases standing with
  | error fault => rfl
  | ok place =>
      dsimp only
      cases embed call.message with
      | error fault => rfl
      | ok value =>
          dsimp only
          split <;> rfl

theorem solos_cons (embed : Value → Except Fault Value)
    (reply : Text.CodePoints → Value → Except Fault ρ) (maxTokens id : Value) (call : Call)
    (rest : List Call) (standing : Standing) :
    solos embed reply maxTokens id (call :: rest) standing =
      ((solo embed reply maxTokens id call standing).1 ::
        (solos embed reply maxTokens id rest (solo embed reply maxTokens id call standing).2).1,
        (solos embed reply maxTokens id rest (solo embed reply maxTokens id call standing).2).2) :=
  rfl

theorem map_call_of_passages {conversation : Conversation (List Text.CodePoints) ρ}
    {calls : List Call} {scene after : Scene (Conversing (List Text.CodePoints))}
    {passages : List (Passage ρ)}
    (ran : conversation.passages calls scene = (passages, after)) :
    passages.map Passage.call = calls := by
  induction calls generalizing scene passages with
  | nil =>
      cases ran
      rfl
  | cons call rest ih =>
      obtain ⟨rfl, rfl⟩ := Prod.mk.inj ran
      exact congrArg (call :: ·) (ih rfl)

section Calls

open RecallChat.Action

variable (embed : Value → Except Fault Value) (reply : Text.CodePoints → Value → Except Fault ρ)
  {topK : Value} (maxTokens : Value) {id : Value}

omit [Utterance ρ] in
/-- What functions prepare for a turn where no memories are retrieved. -/
theorem perform_prepare_functional {registry : Registry} {handle : Handle}
    {place : Nat × List Message} (found : registry.handle? id = some handle)
    (seen : registry.view id = some place)
    (unsearched : (Limit.ofValue topK).isNotPositive = .ok true) (message : Value)
    (memory : Memory) (journal : Journal) :
    ((functional embed reply topK maxTokens).prepare handle message).perform
        ⟨⟨[], ⟨registry, memory⟩⟩, journal⟩ =
      match embed message with
      | .error fault => (.error fault, ⟨⟨[], ⟨registry, memory⟩⟩, journal⟩)
      | .ok value =>
        let prompt := Message.renderAll (recent place.1 (place.2 ++ [⟨.user, message⟩]))
        ((reply prompt maxTokens).map fun response => ⟨value, [], prompt, response⟩,
          ⟨⟨[prompt], ⟨registry, memory⟩⟩, journal⟩) := by
  let scene : Scene (Conversing (List Text.CodePoints)) := ⟨⟨[], ⟨registry, memory⟩⟩, journal⟩
  have embedded : ((functional embed reply topK maxTokens).embed message).perform
      (sceneOf Conversing.inner scene) = (embed message, ⟨[], journal⟩) :=
    perform_ofExcept _ _
  cases made : embed message with
  | error fault =>
      rw [made] at embedded
      exact perform_prepare_of_unembedded scene handle embedded
  | ok value =>
      rw [made] at embedded
      have searched : memory.search value (.ofValue topK) = .ok [] := by
        unfold Memory.search
        rw [unsearched]
        rfl
      have prompted : buildPrompt [] (registry.promptFor handle [⟨.user, message⟩]) =
          Message.renderAll (recent place.1 (place.2 ++ [⟨.user, message⟩])) :=
        Registry.promptFor_of_view found seen _
      have replied : ((functional embed reply topK maxTokens).generate
          (buildPrompt [] (registry.promptFor handle [⟨.user, message⟩])) maxTokens).perform
            ⟨[], journal⟩ =
          (reply (buildPrompt [] (registry.promptFor handle [⟨.user, message⟩])) maxTokens,
            ⟨[buildPrompt [] (registry.promptFor handle [⟨.user, message⟩])], journal⟩) :=
        perform_ofExcept _ _
      have prepared := perform_prepare_of_embedded scene handle embedded searched replied
      rw [List.map_nil, prompted] at prepared
      exact prepared

/-- A turn that is prepared adds its messages to its session, however it ends. -/
theorem perform_turn_of_ready {σ : Type} {conversation : Conversation σ ρ}
    {message sessionId : Value} (scene : Scene (Conversing σ)) {after : Scene (Conversing σ)}
    {handle : Handle} {opened : Registry} {prepared : PreparedTurn ρ}
    (created : scene.world.chat.registry.getOrCreate sessionId = .ok (handle, opened))
    (ready : (conversation.prepare handle message).perform
        ⟨⟨scene.world.inner, ⟨opened, scene.world.chat.memory⟩⟩, scene.journal⟩ =
      (.ok prepared, after)) :
    ∃ last, (conversation.turn message sessionId).perform scene =
        (settled (opened.session handle).id prepared, last) ∧
      last.world.inner = after.world.inner ∧
      last.world.chat.registry =
        after.world.chat.registry.addTurn handle message (Utterance.content prepared.response) := by
  unfold settled
  cases isVector : Vector32.ofValue prepared.embedding with
  | error fault =>
      have refused := after.world.chat.memory.add_of_noVector isVector message
      exact ⟨_, perform_turn_of_refused scene created ready refused, rfl, rfl⟩
  | ok vector =>
      have added := after.world.chat.memory.add_of_isVector isVector message
      cases measured : Utterance.length prepared.response with
      | error fault =>
          exact ⟨_, perform_turn_of_unmeasured scene created ready added measured, rfl, rfl⟩
      | ok length =>
          exact ⟨_, perform_turn_of_prepared scene created ready added measured, rfl, rfl⟩

theorem passage_eq {conversation : Conversation (List Text.CodePoints) ρ} {call : Call}
    {scene after : Scene (Conversing (List Text.CodePoints))} {outcome : Except Fault (TurnReport ρ)}
    (turned : (conversation.turn call.message call.sessionId).perform
      ⟨⟨[], scene.world.chat⟩, scene.journal⟩ = (outcome, after)) :
    conversation.passage call scene = (⟨call, after.world.inner, outcome⟩, after) := by
  unfold passage
  rw [turned]

/-- **A turn takes note of its own session only**: its passage follows from where that stands, and
no other session is changed. -/
theorem passage_solo {call : Call} (scene : Scene (Conversing (List Text.CodePoints)))
    (sound : scene.world.chat.registry.Sound) (string : id.IsString)
    (meant : scene.world.chat.registry.resolveId call.sessionId = id)
    (unsearched : (Limit.ofValue topK).isNotPositive = .ok true) :
    ∃ after, (functional embed reply topK maxTokens).passage call scene =
        ((solo embed reply maxTokens id call (scene.world.chat.registry.openedView id)).1, after) ∧
      scene.world.chat.registry.Touches after.world.chat.registry id
        (solo embed reply maxTokens id call (scene.world.chat.registry.openedView id)).2 := by
  let start : Scene (Conversing (List Text.CodePoints)) := ⟨⟨[], scene.world.chat⟩, scene.journal⟩
  have spec := Registry.getOrCreate_spec sound (meant.symm ▸ string)
  rw [meant] at spec
  cases standing : scene.world.chat.registry.openedView id with
  | error refusal =>
      rw [standing] at spec
      have turned : ((functional embed reply topK maxTokens).turn call.message
          call.sessionId).perform start = (.error refusal, start) :=
        perform_turn_of_unopened start spec
      have touched : scene.world.chat.registry.Touches scene.world.chat.registry id _ := .refl sound
      rw [standing] at touched
      exact ⟨start, passage_eq turned, touched⟩
  | ok place =>
      rw [standing] at spec
      obtain ⟨handle, opened, created, opens⟩ := spec
      have bears : (opened.session handle).id = id := opens.sound.session_id string opens.found
      have prepared := perform_prepare_functional embed reply maxTokens opens.found
        opens.view_self unsearched call.message scene.world.chat.memory scene.journal
      unfold solo
      dsimp only
      cases made : embed call.message with
      | error fault =>
          rw [made] at prepared
          have turned := perform_turn_of_unprepared start created prepared
          exact ⟨_, passage_eq turned, .of_opens opens⟩
      | ok value =>
          rw [made] at prepared
          dsimp only at prepared ⊢
          cases answer : reply
              (Message.renderAll (recent place.1 (place.2 ++ [⟨.user, call.message⟩])))
              maxTokens with
          | error fault =>
              rw [answer] at prepared
              have turned := perform_turn_of_unprepared start created prepared
              exact ⟨_, passage_eq turned, .of_opens opens⟩
          | ok response =>
              rw [answer] at prepared
              obtain ⟨last, turned, prompts_eq, registry_eq⟩ :=
                perform_turn_of_ready start created prepared
              have passed := passage_eq turned
              rw [bears, prompts_eq] at passed
              refine ⟨last, passed, ?_⟩
              rw [registry_eq]
              exact .of_addTurn opens string _ _

/-! ## Many calls -/

section Many

variable {embed reply maxTokens} {defaultId : Value} {calls : List Call}
  {scene after : Scene (Conversing (List Text.CodePoints))} {passages : List (Passage ρ)}

/-- What the passages of one session are among others, and where it stands after them, follows from
where it stood alone. -/
theorem passages_solos (sound : scene.world.chat.registry.Sound)
    (defaults : scene.world.chat.registry.defaultId = defaultId)
    (strings : ∀ call ∈ calls, (call.session defaultId).IsString) (string : id.IsString)
    (unsearched : (Limit.ofValue topK).isNotPositive = .ok true)
    (ran : (functional embed reply topK maxTokens).passages calls scene = (passages, after)) :
    solos embed reply maxTokens id (Call.ofSession defaultId id calls)
        (scene.world.chat.registry.openedView id) =
      (Passage.ofSession defaultId id passages, after.world.chat.registry.openedView id) := by
  induction calls generalizing scene passages with
  | nil =>
      cases ran
      rfl
  | cons call rest ih =>
      have meant : scene.world.chat.registry.resolveId call.sessionId = call.session defaultId := by
        rw [resolveId_eq_resolved, defaults, Call.session]
      obtain ⟨middle, passed, touched⟩ := passage_solo embed reply maxTokens scene sound
        (strings call List.mem_cons_self) meant unsearched
      unfold Conversation.passages at ran
      rw [passed] at ran
      obtain ⟨rfl, rfl⟩ := Prod.mk.inj ran
      have others := ih touched.sound (touched.defaultId_eq.trans defaults)
        (fun other member => strings other (List.mem_cons_of_mem call member)) rfl
      by_cases own : call.session defaultId = id
      · rw [own] at touched ⊢
        rw [Call.ofSession_cons_self string own, solos_cons, ← touched.standing_self, others,
          Passage.ofSession_cons_self string (by rwa [solo_call])]
      · have stays := touched.standing_other string (Ne.symm own)
        rw [Call.ofSession_cons_other string own, ← stays, others,
          Passage.ofSession_cons_other string (by rwa [solo_call])]

/-- **Sessions do not meet where no memories are retrieved.**  Without the calls of other sessions,
the calls of a session end as they do among them, with a reply or a fault, have the same prompts,
and leave the same history. -/
theorem passages_isolated (sound : scene.world.chat.registry.Sound)
    (defaults : scene.world.chat.registry.defaultId = defaultId)
    (strings : ∀ call ∈ calls, (call.session defaultId).IsString) (string : id.IsString)
    (unsearched : (Limit.ofValue topK).isNotPositive = .ok true)
    (ran : (functional embed reply topK maxTokens).passages calls scene = (passages, after))
    {alone : List (Passage ρ)} {last : Scene (Conversing (List Text.CodePoints))}
    (ranAlone : (functional embed reply topK maxTokens).passages
        (Call.ofSession defaultId id calls) scene = (alone, last)) :
    alone.map Passage.call = Call.ofSession defaultId id calls ∧
      Passage.ofSession defaultId id passages = alone ∧
      after.world.chat.registry.history id = last.world.chat.registry.history id := by
  have own : ∀ call ∈ Call.ofSession defaultId id calls, (call.session defaultId).IsString :=
    fun call member => strings call (List.mem_filter.mp member).1
  have again : Call.ofSession defaultId id (Call.ofSession defaultId id calls) =
      Call.ofSession defaultId id calls := List.filter_eq_self.mpr fun _ member =>
    (List.mem_filter.mp member).2
  have among := passages_solos sound defaults strings string unsearched ran
  have single := passages_solos sound defaults own string unsearched ranAlone
  rw [again, among] at single
  obtain ⟨same, standing⟩ := Prod.mk.inj single
  have made := map_call_of_passages ranAlone
  refine ⟨made, same.trans (Passage.ofSession_eq_self made), ?_⟩
  rw [Registry.history_of_standing string, Registry.history_of_standing string, standing]

/-- An embedder that does not embed truth values. -/
def embedding : Value → Except Fault Value
  | .boolean _ => .error (.wrongType "no text")
  | _ => .ok (.list [.integer 1])

/-- Two sessions that take turns, with a message that is not embedded. -/
def crossing : List Call :=
  [⟨.text "a", .null⟩, ⟨.text "b", .text "s"⟩, ⟨.boolean true, .text "default"⟩]

theorem crossing_isolated :
    ∃ passages after alone last,
      (functional embedding (fun _ _ => .ok "ok") (.integer 0) .null).passages crossing
          ⟨⟨[], ⟨.empty (.integer 3) (.text "default"), .empty⟩⟩, .empty⟩ = (passages, after) ∧
      (functional embedding (fun _ _ => .ok "ok") (.integer 0) .null).passages
          [⟨.text "a", .null⟩, ⟨.boolean true, .text "default"⟩]
          ⟨⟨[], ⟨.empty (.integer 3) (.text "default"), .empty⟩⟩, .empty⟩ = (alone, last) ∧
      Passage.ofSession (.text "default") (.text "default") passages = alone ∧
      after.world.chat.registry.history (.text "default") =
        last.world.chat.registry.history (.text "default") ∧
      last.world.chat.registry.history (.text "default") =
        .ok [⟨.user, .text "a"⟩, ⟨.assistant, .text "ok"⟩] := by
  have strings : ∀ call ∈ crossing, (call.session (.text "default")).IsString := by
    simp [crossing, Call.session, resolved, Value.IsString]
  have string : (Value.text "default").IsString := trivial
  have own : Call.ofSession (.text "default") (.text "default") crossing =
      [⟨.text "a", .null⟩, ⟨.boolean true, .text "default"⟩] := rfl
  have kept : ((functional embedding (fun _ _ => .ok "ok") (.integer 0) .null).passages
      [⟨.text "a", .null⟩, ⟨.boolean true, .text "default"⟩]
      ⟨⟨[], ⟨.empty (.integer 3) (.text "default"), .empty⟩⟩, .empty⟩).2.world.chat.registry.history
        (.text "default") =
      .ok [⟨.user, .text "a"⟩, ⟨.assistant, .text "ok"⟩] := rfl
  rcases ran : (functional embedding (fun _ _ => .ok "ok") (.integer 0) .null).passages crossing
    ⟨⟨[], ⟨.empty (.integer 3) (.text "default"), .empty⟩⟩, .empty⟩ with ⟨passages, after⟩
  rcases ranAlone : (functional embedding (fun _ _ => .ok "ok") (.integer 0) .null).passages
    [⟨.text "a", .null⟩, ⟨.boolean true, .text "default"⟩]
    ⟨⟨[], ⟨.empty (.integer 3) (.text "default"), .empty⟩⟩, .empty⟩ with ⟨alone, last⟩
  rw [ranAlone] at kept
  rw [← own] at ranAlone
  have sound : (Registry.empty (.integer 3) (.text "default")).Sound := Registry.sound_empty _ _
  have unsearched : (Limit.ofValue (.integer 0)).isNotPositive = .ok true := rfl
  obtain ⟨-, same, history_eq⟩ :=
    passages_isolated sound rfl strings string unsearched ran ranAlone
  exact ⟨passages, after, alone, last, rfl, rfl, same, history_eq, kept⟩

end Many

end Calls

end Conversation

end RecallChat
