import RecallChat.Proofs.Tokenizer.Faults

/-!
# The end id over a run

An adapter finds its end id when it is first asked for it, and keeps it.  Between the questions it
encodes and decodes, tells its size, and has its wrapped tokenizer changed, its vocabulary included;
all of these can fail.  What is found is the first that there is of the id of the configured token,
the wrapped tokenizer's own id, the ids of four well-known tokens, and two
(`TokenizerAdapter.endByPriority`).

Whatever is called, every answer to the question is the one that the world at the first question
determines, and the questions make no difference to the other calls (`TokenizerAdapter.run_endIds`).
As finding an end id can write to the journal, the latter supposes that the wrapped tokenizer does
not look into it (`Action.Unread`).
-/

set_option autoImplicit false

namespace RecallChat

open RecallChat.Action

variable {σ τ α β : Type}

/-! ## Actions that do not look into the journal -/

namespace Action

/-- That how an action ends, and in what world, does not depend on the journal. -/
def Unread (action : Action σ α) : Prop :=
  ∀ world journal journal',
    (action.perform ⟨world, journal⟩).1 = (action.perform ⟨world, journal'⟩).1 ∧
      (action.perform ⟨world, journal⟩).2.world = (action.perform ⟨world, journal'⟩).2.world

namespace Unread

variable {action : Action σ α}

theorem pure (value : α) : Unread (Pure.pure value : Action σ α) := fun _ _ _ => ⟨rfl, rfl⟩

theorem throw (fault : Fault) : Unread (throw fault : Action σ α) := fun _ _ _ => ⟨rfl, rfl⟩

theorem world : Unread (Action.world : Action σ σ) := fun _ _ _ => ⟨rfl, rfl⟩

theorem change (f : σ → σ) : Unread (Action.change f) := fun _ _ _ => ⟨rfl, rfl⟩

theorem ofExcept (outcome : Except Fault α) : Unread (Action.ofExcept outcome : Action σ α) := by
  cases outcome with
  | ok value => exact .pure value
  | error fault => exact .throw fault

theorem bind (first : Unread action) {next : α → Action σ β} (rest : ∀ value, Unread (next value)) :
    Unread (action >>= next) := by
  intro world journal journal'
  obtain ⟨same, world_eq⟩ := first world journal journal'
  rw [perform_bind, perform_bind]
  generalize action.perform ⟨world, journal⟩ = ended at same world_eq ⊢
  generalize action.perform ⟨world, journal'⟩ = ended' at same world_eq ⊢
  obtain ⟨outcome, inner, after⟩ := ended
  obtain ⟨outcome', inner', after'⟩ := ended'
  cases same
  cases world_eq
  cases outcome with
  | error fault => exact ⟨rfl, rfl⟩
  | ok value => exact rest value inner after after'

theorem map (unread : Unread action) (f : α → β) : Unread (f <$> action) := by
  rw [map_eq_pure_bind]
  exact unread.bind fun value => .pure (f value)

theorem attempt (unread : Unread action) : Unread action.attempt := by
  intro world journal journal'
  obtain ⟨same, world_eq⟩ := unread world journal journal'
  exact ⟨congrArg Except.ok same, world_eq⟩

end Unread

end Action

/-- That a wrapped tokenizer does not look into the journal. -/
structure LibraryTokenizer.Unread (wrapped : LibraryTokenizer σ) : Prop where
  encode : ∀ points, Action.Unread (wrapped.encode points)
  decode : ∀ ids, Action.Unread (wrapped.decode ids)
  size : Action.Unread wrapped.size

/-- That an own end id is missing, null or an integer. -/
def ProperEnd (own : Option Value) : Prop :=
  own = none ∨ own = some .null ∨ ∃ id, own = some (.integer id)

namespace TokenizerAdapter

/-- An own end id that is an integer. -/
def ownId? : Option Value → Option Int
  | some (.integer id) => some id
  | _ => none

/-- The end id by priority: of all candidates that there are, the first. -/
def endByPriority (adapter : TokenizerAdapter σ) (vocabulary : List (String × Int))
    (own : Option Value) : Int :=
  let candidates := [adapter.configured? vocabulary, ownId? own, idOf? vocabulary "</s>",
    idOf? vocabulary "<|endoftext|>", idOf? vocabulary "<|im_end|>", idOf? vocabulary "<|eot_id|>"]
  (candidates.findSome? id).getD 2

/-! ## Calls -/

/-- A call that is passed on to the wrapped tokenizer, or a change of it. -/
inductive Use (σ : Type) where
  | encode (text : Value)
  | decode (ids : Value)
  | size
  | alter (change : σ → σ)

/-- A call of an adapter. -/
inductive Call (σ : Type) where
  | use (made : Use σ)
  | endId

/-- What a call gives. -/
inductive Answer where
  | ids (ids : List Int)
  | text (text : String)
  | size (number : Nat)
  | endId (id : Int)
  | nothing

/-- What a use does in the world of the wrapped tokenizer. -/
def Use.action (adapter : TokenizerAdapter σ) : Use σ → Action σ Answer
  | encode text => .ids <$> adapter.encode text
  | decode ids => .text <$> adapter.decodeValue ids
  | size => .size <$> adapter.vocabularySize
  | alter change => (fun _ => .nothing) <$> Action.change change

namespace Call

/-- What a call does. -/
def action (adapter : TokenizerAdapter σ) : Call σ → Action (Adapted σ) Answer
  | use made =>
    (made.action adapter).within Adapted.inner fun inner world => { world with inner := inner }
  | endId => .endId <$> adapter.endId

/-- Whether a call asks for the end id. -/
def asksEnd : Call σ → Bool
  | use _ => false
  | endId => true

end Call

/-- A call that was made: what it was, how it ended, and the worlds before and after it. -/
structure Event (σ : Type) where
  before : Adapted σ
  call : Call σ
  outcome : Except Fault Answer
  after : Adapted σ

/-- Whether a call was made that asks for the end id. -/
def Event.asksEnd (event : Event σ) : Bool := event.call.asksEnd

/-- The events of calls made one after the other, and the scene after all of them. -/
def run (adapter : TokenizerAdapter σ) :
    List (Call σ) → Scene (Adapted σ) → List (Event σ) × Scene (Adapted σ)
  | [], scene => ([], scene)
  | call :: rest, scene =>
    let (outcome, after) := (call.action adapter).perform scene
    let (others, last) := run adapter rest after
    (⟨scene.world, call, outcome, after.world⟩ :: others, last)

variable {adapter : TokenizerAdapter σ} {vocabulary : σ → List (String × Int)}
  {own : σ → Option Value}

/-! ## One call -/

/-- What is found is what the order of priority says. -/
theorem endOf_eq (hashable : adapter.endToken.isHashable = true) (vocabulary : List (String × Int))
    {own : Option Value} (proper : ProperEnd own) :
    adapter.endOf vocabulary own = .ok (adapter.endByPriority vocabulary own) := by
  unfold endByPriority
  cases known : adapter.configured? vocabulary with
  | some id => exact endOf_of_configured hashable known
  | none =>
      rcases proper with rfl | rfl | ⟨id, rfl⟩
      · exact endOf_of_common hashable known (.inl rfl)
      · exact endOf_of_common hashable known (.inr rfl)
      · exact endOf_of_own hashable known rfl nofun

/-- The first question is answered by priority, and the answer is remembered. -/
theorem perform_endId_fresh (readable : adapter.wrapped.Readable vocabulary own)
    (hashable : adapter.endToken.isHashable = true) (proper : ∀ world, ProperEnd (own world))
    {scene : Scene (Adapted σ)} (fresh : scene.world.endId = none) :
    ∃ journal, (Call.endId.action adapter).perform scene =
      (.ok (.endId (adapter.endByPriority (vocabulary scene.world.inner) (own scene.world.inner))),
        ⟨⟨scene.world.inner,
          some (adapter.endByPriority (vocabulary scene.world.inner) (own scene.world.inner))⟩,
          journal⟩) := by
  obtain ⟨journal, found⟩ := endId_spec readable scene
  refine ⟨journal, ?_⟩
  rw [endIn, fresh, endOf_eq hashable _ (proper _)] at found
  rw [Call.action, perform_map, found]
  rfl

/-- Later questions are answered from memory. -/
theorem perform_endId_known {scene : Scene (Adapted σ)} {id : Int}
    (known : scene.world.endId = some id) :
    (Call.endId.action adapter).perform scene = (.ok (.endId id), scene) := by
  obtain ⟨⟨inner, remembered⟩, journal⟩ := scene
  cases known
  rfl

/-- A use goes to the wrapped tokenizer and does not touch what is remembered. -/
theorem perform_use (adapter : TokenizerAdapter σ) (made : Use σ) (scene : Scene (Adapted σ)) :
    ∃ outcome after, ((Call.use made).action adapter).perform scene = (outcome, after) ∧
      after.world.endId = scene.world.endId ∧
      (made.action adapter).perform ⟨scene.world.inner, scene.journal⟩ =
        (outcome, ⟨after.world.inner, after.journal⟩) :=
  ⟨_, _, rfl, rfl, rfl⟩

theorem encode_unread (unread : adapter.wrapped.Unread) (text : Value) :
    Action.Unread (adapter.encode text) := by
  unfold encode
  cases text.points? with
  | none => exact .throw _
  | some points =>
      refine (unread.encode points).attempt.bind fun outcome => ?_
      cases outcome with
      | ok ids => exact .pure ids
      | error fault => exact .throw _

theorem decodeValue_unread (unread : adapter.wrapped.Unread) (ids : Value) :
    Action.Unread (adapter.decodeValue ids) := by
  refine (Unread.ofExcept _).bind fun items => ?_
  refine ((Unread.ofExcept _).bind fun ids => unread.decode ids).attempt.bind fun outcome => ?_
  cases outcome with
  | ok text => exact .pure text
  | error fault => exact (Unread.ofExcept _).bind fun quoted => .throw _

theorem use_unread (unread : adapter.wrapped.Unread) (made : Use σ) :
    Action.Unread (made.action adapter) := by
  cases made with
  | encode text => exact (encode_unread unread text).map _
  | decode ids => exact (decodeValue_unread unread ids).map _
  | size => exact unread.size.map _
  | alter change => exact (Unread.change change).map _

/-! ## Runs -/

theorem run_cons (call : Call σ) (rest : List (Call σ)) {scene after : Scene (Adapted σ)}
    {outcome : Except Fault Answer}
    (performed : (call.action adapter).perform scene = (outcome, after)) :
    adapter.run (call :: rest) scene =
      (⟨scene.world, call, outcome, after.world⟩ :: (adapter.run rest after).1,
        (adapter.run rest after).2) := by
  rw [run, performed]

theorem map_call_run (calls : List (Call σ)) (scene : Scene (Adapted σ)) :
    (adapter.run calls scene).1.map Event.call = calls := by
  induction calls generalizing scene with
  | nil => rfl
  | cons call rest ih =>
      rw [run_cons call rest rfl, List.map_cons, ih]

/-- Once an id is remembered it answers all questions. -/
theorem run_known {id : Int} (calls : List (Call σ)) {scene : Scene (Adapted σ)}
    (known : scene.world.endId = some id) :
    ∀ event ∈ (adapter.run calls scene).1, event.asksEnd = true →
      event.outcome = .ok (.endId id) := by
  induction calls generalizing scene with
  | nil => exact fun event member => absurd member List.not_mem_nil
  | cons call rest ih =>
      cases call with
      | use made =>
          obtain ⟨outcome, after, performed, kept, _⟩ := perform_use adapter made scene
          rw [run_cons _ rest performed]
          exact List.forall_mem_cons.mpr ⟨nofun, ih (kept.trans known)⟩
      | endId =>
          rw [run_cons _ rest (perform_endId_known known)]
          exact List.forall_mem_cons.mpr ⟨fun _ => rfl, ih known⟩

/-- All questions are answered as the first one is. -/
theorem run_fresh (readable : adapter.wrapped.Readable vocabulary own)
    (hashable : adapter.endToken.isHashable = true) (proper : ∀ world, ProperEnd (own world))
    (calls : List (Call σ)) {scene : Scene (Adapted σ)} (fresh : scene.world.endId = none) :
    ∀ first, (adapter.run calls scene).1.find? Event.asksEnd = some first →
      ∀ event ∈ (adapter.run calls scene).1, event.asksEnd = true →
        event.outcome = .ok (.endId
          (adapter.endByPriority (vocabulary first.before.inner) (own first.before.inner))) := by
  induction calls generalizing scene with
  | nil =>
      intro first found
      cases found
  | cons call rest ih =>
      intro first found
      cases call with
      | use made =>
          obtain ⟨outcome, after, performed, kept, _⟩ := perform_use adapter made scene
          rw [run_cons _ rest performed] at found ⊢
          exact List.forall_mem_cons.mpr ⟨nofun, ih (kept.trans fresh) first found⟩
      | endId =>
          obtain ⟨journal, answered⟩ := perform_endId_fresh readable hashable proper fresh
          rw [run_cons _ rest answered] at found ⊢
          cases found
          exact List.forall_mem_cons.mpr ⟨fun _ => rfl, run_known rest rfl⟩

/-- A question leaves the wrapped tokenizer alone. -/
theorem perform_endId_inner (readable : adapter.wrapped.Readable vocabulary own)
    (scene : Scene (Adapted σ)) :
    ((Call.endId.action adapter).perform scene).2.world.inner = scene.world.inner := by
  obtain ⟨journal, found⟩ := endId_spec readable scene
  rw [Call.action, perform_map, found]

/-- Without the questions, the other calls end as they did.  Scenes count as the same here when the
wrapped tokenizer is, whatever is remembered and written in them. -/
theorem run_unasked (readable : adapter.wrapped.Readable vocabulary own)
    (unread : adapter.wrapped.Unread) (calls : List (Call σ)) {scene other : Scene (Adapted σ)}
    (same : scene.world.inner = other.world.inner) :
    ((adapter.run calls scene).1.filter fun event => !event.asksEnd).map Event.outcome =
        (adapter.run (calls.filter fun call => !call.asksEnd) other).1.map Event.outcome ∧
      (adapter.run calls scene).2.world.inner =
        (adapter.run (calls.filter fun call => !call.asksEnd) other).2.world.inner := by
  -- a use is made in both runs, and a question drops out of the second
  induction calls generalizing scene other with
  | nil => exact ⟨rfl, same⟩
  | cons call rest ih =>
      cases call with
      | use made =>
          obtain ⟨outcome, after, performed, _, used⟩ := perform_use adapter made scene
          obtain ⟨outcome', after', performed', _, used'⟩ := perform_use adapter made other
          obtain ⟨outcome_eq, inner_eq⟩ :=
            use_unread unread made scene.world.inner scene.journal other.journal
          rw [same, used', ← same, used] at outcome_eq inner_eq
          rw [List.filter_cons_of_pos rfl, run_cons _ rest performed, run_cons _ _ performed']
          obtain ⟨outcomes_eq, last_eq⟩ := ih inner_eq
          exact ⟨List.cons_eq_cons.mpr ⟨outcome_eq, outcomes_eq⟩, last_eq⟩
      | endId =>
          rw [List.filter_cons_of_neg Bool.false_ne_true, run_cons _ rest rfl]
          exact ih ((perform_endId_inner readable scene).trans same)

/-- **The end id is found once, by priority, and never moves.**  In a run of an adapter that
remembers none yet, all questions are answered by the order of priority in the world before the
first of them; and the other calls end as in the run that leaves the questions out. -/
theorem run_endIds (readable : adapter.wrapped.Readable vocabulary own)
    (hashable : adapter.endToken.isHashable = true) (proper : ∀ world, ProperEnd (own world))
    (unread : adapter.wrapped.Unread) (calls : List (Call σ)) (scene : Scene (Adapted σ))
    (fresh : scene.world.endId = none) :
    (adapter.run calls scene).1.map Event.call = calls ∧
      (∀ first, (adapter.run calls scene).1.find? Event.asksEnd = some first →
        ∀ event ∈ (adapter.run calls scene).1, event.asksEnd = true →
          event.outcome = .ok (.endId
            (adapter.endByPriority (vocabulary first.before.inner) (own first.before.inner)))) ∧
      ((adapter.run calls scene).1.filter fun event => !event.asksEnd).map Event.outcome =
        (adapter.run (calls.filter fun call => !call.asksEnd) scene).1.map Event.outcome ∧
      (adapter.run calls scene).2.world.inner =
        (adapter.run (calls.filter fun call => !call.asksEnd) scene).2.world.inner :=
  ⟨map_call_run calls scene, run_fresh readable hashable proper calls fresh,
    run_unasked readable unread calls rfl⟩

/-! ## A vocabulary that is replaced -/

theorem unread_wordTokenizer (vocabulary : σ → Rehearsal.WordVocabulary) :
    (Rehearsal.wordTokenizer vocabulary).Unread where
  encode _ := Unread.world.bind fun _ => .ofExcept _
  decode _ := Unread.world.bind fun _ => .ofExcept _
  size := Unread.world.bind fun _ => .pure _

/-- Words with their ids and an own end id that is an integer, if there is one. -/
def numbered (world : List (String × Int) × Option Int) : Rehearsal.WordVocabulary :=
  ⟨world.1, none, none, [], world.2.map .integer⟩

/-- An adapter of numbered words, without a configured end token. -/
def counting : TokenizerAdapter (List (String × Int) × Option Int) :=
  ⟨Rehearsal.wordTokenizer numbered, .null⟩

theorem proper_numbered (world : List (String × Int) × Option Int) :
    ProperEnd (numbered world).ownEnd := by
  obtain ⟨entries, own⟩ := world
  cases own with
  | none => exact .inl rfl
  | some id => exact .inr (.inr ⟨id, rfl⟩)

/-- Ids that are none, a question, another vocabulary with an own end id, a text of it, and the
question again. -/
def replacing : List (Call (List (String × Int) × Option Int)) :=
  [.use (.decode .null), .endId, .use (.alter fun _ => ([("a", 7)], some 7)),
    .use (.encode (.text "a")), .endId]

/-- A vocabulary in which a well-known token has the id zero. -/
def zeroed : Scene (Adapted (List (String × Int) × Option Int)) :=
  ⟨⟨([("</s>", 0)], none), none⟩, .empty⟩

/-- Both questions are answered with the zero of the first vocabulary; the text has its id of the
second one. -/
theorem zeroed_keeps :
    ((counting.run replacing zeroed).1.filter Event.asksEnd).length = 2 ∧
      (∀ event ∈ (counting.run replacing zeroed).1, event.asksEnd = true →
        event.outcome = .ok (.endId 0)) ∧
      ((counting.run replacing zeroed).1.filter fun event => !event.asksEnd).map Event.outcome =
        [.error (.wrongType "no ids in a value of kind NoneType"), .ok .nothing,
          .ok (.ids [7])] := by
  have readable : counting.wrapped.Readable (fun world => (numbered world).entries)
      fun world => (numbered world).ownEnd := readable_wordTokenizer numbered
  obtain ⟨_, settled, unasked, _⟩ := run_endIds readable rfl proper_numbered
    (unread_wordTokenizer numbered) replacing zeroed rfl
  exact ⟨rfl, settled _ rfl, unasked.trans rfl⟩

end TokenizerAdapter

end RecallChat
