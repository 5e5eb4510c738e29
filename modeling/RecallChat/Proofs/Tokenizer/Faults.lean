import RecallChat.Proofs.Ending
import RecallChat.Proofs.Outcome
import RecallChat.Rehearsal.Tokenizer

/-!
# How a tokenizer adapter fails

Encoding fails with tokenization faults only (`TokenizerAdapter.EncodingFails`).  Decoding and the
end id do not keep to that.  A fault of decoding is told with the first ids in quotes, so there must
be ids, and these must be writable (`TokenizerAdapter.DecodingFails`); and the end id fails for a
configured token that cannot be looked up, and for an own end id that is no integer
(`TokenizerAdapter.EndFails`).  The three relations list all failures
(`TokenizerAdapter.fails_iff`).

Reading a wrapped tokenizer's vocabulary and own end id is taken to give them and to change nothing
(`LibraryTokenizer.Readable`).
-/

set_option autoImplicit false

namespace RecallChat

open RecallChat.Action

variable {σ : Type}

/-- That the vocabulary and the own end id of a wrapped tokenizer are read off its world. -/
structure LibraryTokenizer.Readable (wrapped : LibraryTokenizer σ)
    (vocabulary : σ → List (String × Int)) (own : σ → Option Value) : Prop where
  vocabulary : ∀ scene, wrapped.vocabulary.perform scene = (.ok (vocabulary scene.world), scene)
  ownEnd : ∀ scene, wrapped.ownEnd.perform scene = (.ok (own scene.world), scene)

namespace TokenizerAdapter

variable (adapter : TokenizerAdapter σ)

/-! ## Encoding -/

/-- How encoding a text fails. -/
inductive EncodingFails (text : Value) (scene : Scene σ) : Fault → Prop
  | notText : text.points? = none →
      EncodingFails text scene (.tokenization (.notText text.kindName))
  | refused {points : Text.CodePoints} {fault : Fault} : text.points? = some points →
      ((adapter.wrapped.encode points).perform scene).1 = .error fault →
      EncodingFails text scene (.tokenization (.encoding fault.text))

variable {adapter} {text ids : Value} {items : List Value} {scene : Scene σ} {fault : Fault}

theorem encode_outcome {points : Text.CodePoints} (read : text.points? = some points) :
    ((adapter.encode text).perform scene).1 =
      ((adapter.wrapped.encode points).perform scene).1.mapError
        fun fault => .tokenization (.encoding fault.text) := by
  rw [encode, read]
  dsimp only
  rw [perform_bind, perform_attempt]
  dsimp only
  cases ((adapter.wrapped.encode points).perform scene).1 with
  | error fault => rfl
  | ok ids => rfl

theorem EncodingFails.fails (fails : adapter.EncodingFails text scene fault) :
    ((adapter.encode text).perform scene).1 = .error fault := by
  cases fails with
  | notText noText =>
      rw [encode, noText]
      rfl
  | refused read refused =>
      rw [encode_outcome read, refused]
      rfl

theorem EncodingFails.of_fails (failed : ((adapter.encode text).perform scene).1 = .error fault) :
    adapter.EncodingFails text scene fault := by
  cases read : text.points? with
  | none =>
      rw [encode, read] at failed
      cases failed
      exact .notText read
  | some points =>
      rw [encode_outcome read] at failed
      cases given : ((adapter.wrapped.encode points).perform scene).1 with
      | error reason =>
          rw [given] at failed
          cases failed
          exact .refused read given
      | ok ids =>
          rw [given] at failed
          cases failed

/-! ## Decoding -/

variable (adapter)

/-- The text of items, whose faults are those of the items and of the wrapped tokenizer. -/
def decodeIntegers (items : List Value) : Action σ String := do
  adapter.wrapped.decode (← Action.ofExcept (items.mapM Value.toInteger))

theorem decodeItems_eq (items : List Value) :
    adapter.decodeItems items = (do
      match ← (adapter.decodeIntegers items).attempt with
      | .ok text => return text
      | .error fault => do
        let quoted ← Action.ofExcept (Value.list (items.take 8)).inQuotes
        throw (.tokenization (.decoding quoted fault.text))) :=
  rfl

/-- Why the text of items is refused: an item is no integer, or the wrapped tokenizer fails on the
integers. -/
inductive Refuses (items : List Value) (scene : Scene σ) : Fault → Prop
  | item {fault : Fault} : items.mapM Value.toInteger = .error fault → Refuses items scene fault
  | wrapped {ids : List Int} {fault : Fault} : items.mapM Value.toInteger = .ok ids →
      ((adapter.wrapped.decode ids).perform scene).1 = .error fault → Refuses items scene fault

/-- How decoding fails.  Only the second way is a tokenization fault. -/
inductive DecodingFails (ids : Value) (scene : Scene σ) : Fault → Prop
  | noItems : ids.length? = none →
      DecodingFails ids scene (.wrongType ("no ids in a value of kind " ++ ids.kindName))
  | refused {items : List Value} {fault : Fault} : itemsOf ids = .ok items →
      adapter.Refuses items scene fault → (Value.list (items.take 8)).isWritable = true →
      DecodingFails ids scene
        (.tokenization (.decoding (Value.list (items.take 8)).shown fault.text))
  | unwritable {items : List Value} {fault : Fault} : itemsOf ids = .ok items →
      adapter.Refuses items scene fault → (Value.list (items.take 8)).isWritable = false →
      DecodingFails ids scene Value.unwritable

/-- Values with items are those that have a length. -/
theorem itemsOf_cases (ids : Value) :
    ids.length? = none ∧
        itemsOf ids = .error (.wrongType ("no ids in a value of kind " ++ ids.kindName)) ∨
      ids.length? ≠ none ∧ ∃ items, itemsOf ids = .ok items := by
  cases ids <;> simp [itemsOf, Value.length?]

variable {adapter}

theorem refuses_iff :
    adapter.Refuses items scene fault ↔
      ((adapter.decodeIntegers items).perform scene).1 = .error fault := by
  rw [decodeIntegers, perform_bind, perform_ofExcept]
  cases converted : items.mapM Value.toInteger with
  | error reason =>
      constructor
      · rintro (failed | ⟨given, _⟩)
        · cases converted.symm.trans failed
          rfl
        · cases converted.symm.trans given
      · intro failed
        cases failed
        exact .item converted
  | ok ids =>
      constructor
      · rintro (failed | ⟨given, failed⟩)
        · cases converted.symm.trans failed
        · cases converted.symm.trans given
          exact failed
      · exact .wrapped converted

/-- A refusal is told with the first items in quotes. -/
theorem decodeItems_of_refuses (refuses : adapter.Refuses items scene fault) :
    ((adapter.decodeItems items).perform scene).1 =
      (Value.list (items.take 8)).inQuotes.bind fun quoted =>
        .error (.tokenization (.decoding quoted fault.text)) := by
  rw [decodeItems_eq, perform_bind, perform_attempt]
  dsimp only
  rw [refuses_iff.mp refuses]
  dsimp only
  rw [perform_bind, perform_ofExcept]
  cases (Value.list (items.take 8)).inQuotes with
  | error reason => rfl
  | ok quoted => rfl

/-- Items whose text is not refused have one. -/
theorem exists_refuses_of_decodeItems
    (failed : ((adapter.decodeItems items).perform scene).1 = .error fault) :
    ∃ reason, adapter.Refuses items scene reason := by
  simp only [refuses_iff]
  rw [decodeItems_eq, perform_bind, perform_attempt] at failed
  dsimp only at failed
  cases ended : ((adapter.decodeIntegers items).perform scene).1 with
  | error reason => exact ⟨reason, rfl⟩
  | ok text =>
      rw [ended] at failed
      cases failed

theorem decodeValue_of_items (listed : itemsOf ids = .ok items) :
    adapter.decodeValue ids = adapter.decodeItems items := by
  rw [decodeValue, listed]
  rfl

theorem DecodingFails.fails (fails : adapter.DecodingFails ids scene fault) :
    ((adapter.decodeValue ids).perform scene).1 = .error fault := by
  cases fails with
  | noItems absent =>
      have listed := ((itemsOf_cases ids).resolve_right fun given => given.1 absent).2
      rw [decodeValue, listed]
      rfl
  | refused listed refuses writable =>
      rw [decodeValue_of_items listed, decodeItems_of_refuses refuses,
        Value.inQuotes_of_isWritable writable]
      rfl
  | unwritable listed refuses long =>
      rw [decodeValue_of_items listed, decodeItems_of_refuses refuses,
        Value.inQuotes_of_not_isWritable long]
      rfl

theorem DecodingFails.of_fails
    (failed : ((adapter.decodeValue ids).perform scene).1 = .error fault) :
    adapter.DecodingFails ids scene fault := by
  rcases itemsOf_cases ids with ⟨absent, listed⟩ | ⟨_, items, listed⟩
  · rw [decodeValue, listed] at failed
    cases failed
    exact .noItems absent
  · rw [decodeValue_of_items listed] at failed
    obtain ⟨reason, refuses⟩ := exists_refuses_of_decodeItems failed
    rw [decodeItems_of_refuses refuses] at failed
    cases writable : (Value.list (items.take 8)).isWritable with
    | true =>
        rw [Value.inQuotes_of_isWritable writable] at failed
        cases failed
        exact .refused listed refuses writable
    | false =>
        rw [Value.inQuotes_of_not_isWritable writable] at failed
        cases failed
        exact .unwritable listed refuses writable

/-! ## The end id -/

variable (adapter) (vocabulary : List (String × Int)) (own : Option Value)

/-- The id of the configured end token; only a text can be a token. -/
def configured? : Option Int :=
  match adapter.endToken with
  | .text token => idOf? vocabulary token
  | _ => none

/-- The end id of a vocabulary and an own end id. -/
def endOf : Except Fault Int := do
  match ← adapter.configuredEnd? vocabulary with
  | some id => return id
  | none =>
    match own with
    | some .null | none => return (commonEnds.findSome? (idOf? vocabulary)).getD fallbackEnd
    | some value => value.toInteger

/-- How the end id fails. -/
inductive EndFails : Fault → Prop
  | token : adapter.endToken.isHashable = false →
      EndFails (.wrongType ("no token can be of kind " ++ adapter.endToken.kindName))
  | own {value : Value} {fault : Fault} : adapter.endToken.isHashable = true →
      adapter.configured? vocabulary = none → own = some value → value ≠ .null →
      value.toInteger = .error fault → EndFails fault

theorem configuredEnd?_eq :
    adapter.configuredEnd? vocabulary =
      if adapter.endToken.isHashable then .ok (adapter.configured? vocabulary)
      else .error (.wrongType ("no token can be of kind " ++ adapter.endToken.kindName)) := by
  unfold configuredEnd? configured?
  cases adapter.endToken <;> rfl

theorem endOf_of_unhashable (unhashable : adapter.endToken.isHashable = false) :
    adapter.endOf vocabulary own =
      .error (.wrongType ("no token can be of kind " ++ adapter.endToken.kindName)) := by
  unfold endOf
  rw [configuredEnd?_eq, unhashable]
  rfl

variable {adapter} {vocabulary} {own}

theorem endOf_of_configured (hashable : adapter.endToken.isHashable = true) {id : Int}
    (known : adapter.configured? vocabulary = some id) : adapter.endOf vocabulary own = .ok id := by
  unfold endOf
  rw [configuredEnd?_eq, if_pos hashable, known]
  rfl

/-- Where there is neither a configured token nor an own end id, common tokens are looked for. -/
theorem endOf_of_common (hashable : adapter.endToken.isHashable = true)
    (unknown : adapter.configured? vocabulary = none) (absent : own = none ∨ own = some .null) :
    adapter.endOf vocabulary own =
      .ok ((commonEnds.findSome? (idOf? vocabulary)).getD fallbackEnd) := by
  unfold endOf
  rw [configuredEnd?_eq, if_pos hashable, unknown]
  rcases absent with rfl | rfl
  · rfl
  · rfl

theorem endOf_of_own (hashable : adapter.endToken.isHashable = true)
    (unknown : adapter.configured? vocabulary = none) {value : Value} (given : own = some value)
    (proper : value ≠ .null) : adapter.endOf vocabulary own = value.toInteger := by
  unfold endOf
  rw [configuredEnd?_eq, if_pos hashable, unknown, given]
  cases value with
  | null => exact absurd rfl proper
  | _ => rfl

theorem endOf_eq_error_iff :
    adapter.endOf vocabulary own = .error fault ↔ adapter.EndFails vocabulary own fault := by
  constructor
  · intro failed
    cases hashable : adapter.endToken.isHashable with
    | false =>
        rw [endOf_of_unhashable _ _ _ hashable] at failed
        cases failed
        exact .token hashable
    | true =>
        cases known : adapter.configured? vocabulary with
        | some id =>
            rw [endOf_of_configured hashable known] at failed
            cases failed
        | none =>
            by_cases absent : own = none ∨ own = some .null
            · rw [endOf_of_common hashable known absent] at failed
              cases failed
            · rw [not_or] at absent
              obtain ⟨value, given⟩ := Option.ne_none_iff_exists'.mp absent.1
              have proper : value ≠ .null := fun null => absent.2 (null ▸ given)
              rw [endOf_of_own hashable known given proper] at failed
              exact .own hashable known given proper failed
  · rintro (unhashable | ⟨hashable, unknown, given, proper, failed⟩)
    · exact endOf_of_unhashable _ _ _ unhashable
    · rw [endOf_of_own hashable unknown given proper, failed]

variable {vocabulary : σ → List (String × Int)} {own : σ → Option Value}

/-- Finding the end id writes to the journal at most. -/
theorem findEnd_spec (readable : adapter.wrapped.Readable vocabulary own) (scene : Scene σ) :
    ∃ journal, adapter.findEnd.perform scene =
      (adapter.endOf (vocabulary scene.world) (own scene.world), ⟨scene.world, journal⟩) := by
  unfold endOf
  rw [findEnd, perform_bind_of_ok (readable.vocabulary scene), perform_bind, perform_ofExcept]
  cases adapter.configuredEnd? (vocabulary scene.world) with
  | error fault => exact ⟨scene.journal, rfl⟩
  | ok configured =>
      cases configured with
      | some id => exact ⟨scene.journal, rfl⟩
      | none =>
          dsimp only
          rw [perform_bind_of_ok (readable.ownEnd scene)]
          -- the common tokens are looked for whether there is no own id or it is null
          have common : ∃ journal, Action.perform
              (match commonEnds.findSome? (idOf? (vocabulary scene.world)) with
              | some id => (pure id : Action σ Int)
              | none => do
                Action.log .warning logSource
                  (.ofString ("No end-of-sequence token in vocabulary; using fallback id " ++
                    toString fallbackEnd))
                return fallbackEnd) scene =
              (.ok ((commonEnds.findSome? (idOf? (vocabulary scene.world))).getD fallbackEnd),
                ⟨scene.world, journal⟩) := by
            cases commonEnds.findSome? (idOf? (vocabulary scene.world)) with
            | some id => exact ⟨scene.journal, rfl⟩
            | none => exact ⟨_, rfl⟩
          cases own scene.world with
          | none => exact common
          | some value =>
              cases value with
              | null => exact common
              | _ =>
                  refine ⟨scene.journal, ?_⟩
                  exact perform_ofExcept _ _

/-- The end id of a world: the one that it remembers, or else the one that is found in it. -/
def endIn (adapter : TokenizerAdapter σ) (vocabulary : σ → List (String × Int))
    (own : σ → Option Value) (world : Adapted σ) : Except Fault Int :=
  match world.endId with
  | some id => .ok id
  | none => adapter.endOf (vocabulary world.inner) (own world.inner)

/-- An end id that was found is remembered; nothing else changes. -/
theorem endId_spec (readable : adapter.wrapped.Readable vocabulary own)
    (scene : Scene (Adapted σ)) :
    ∃ journal, adapter.endId.perform scene =
      (adapter.endIn vocabulary own scene.world,
        ⟨⟨scene.world.inner, (adapter.endIn vocabulary own scene.world).toOption⟩, journal⟩) := by
  obtain ⟨⟨inner, remembered⟩, journal⟩ := scene
  cases remembered with
  | some id => exact ⟨journal, rfl⟩
  | none =>
      obtain ⟨after, found⟩ := findEnd_spec readable ⟨inner, journal⟩
      refine ⟨after, ?_⟩
      rw [endId, perform_bind_of_ok (perform_world _)]
      dsimp only
      rw [perform_bind, perform_within, found]
      dsimp only [endIn]
      cases adapter.endOf (vocabulary inner) (own inner) with
      | error fault => rfl
      | ok id => rfl

/-- **The failures of an adapter.**  A text that cannot be encoded fails as `EncodingFails` says,
which is always with a tokenization fault.  Ids that cannot be decoded fail as `DecodingFails` says,
and the end id, while none is remembered, as `EndFails` says. -/
theorem fails_iff (readable : adapter.wrapped.Readable vocabulary own) (fault : Fault) :
    (∀ (text : Value) (scene : Scene σ),
      ((adapter.encode text).perform scene).1 = .error fault ↔
        adapter.EncodingFails text scene fault) ∧
    (∀ (ids : Value) (scene : Scene σ),
      ((adapter.decodeValue ids).perform scene).1 = .error fault ↔
        adapter.DecodingFails ids scene fault) ∧
    ∀ scene : Scene (Adapted σ), (adapter.endId.perform scene).1 = .error fault ↔
      scene.world.endId = none ∧
        adapter.EndFails (vocabulary scene.world.inner) (own scene.world.inner) fault := by
  refine ⟨fun text scene => ⟨.of_fails, EncodingFails.fails⟩,
    fun ids scene => ⟨.of_fails, DecodingFails.fails⟩, fun scene => ?_⟩
  obtain ⟨journal, found⟩ := endId_spec readable scene
  rw [found, endIn]
  cases scene.world.endId with
  | some id => simp
  | none => simp [endOf_eq_error_iff]

/-! ## A tokenizer of letters -/

theorem readable_wordTokenizer (vocabulary : σ → Rehearsal.WordVocabulary) :
    (Rehearsal.wordTokenizer vocabulary).Readable (fun world => (vocabulary world).entries)
      fun world => (vocabulary world).ownEnd :=
  ⟨fun _ => rfl, fun _ => rfl⟩

/-- An adapter of words, without a configured end token. -/
def wordy : TokenizerAdapter Rehearsal.WordVocabulary := ⟨Rehearsal.wordTokenizer id, .null⟩

/-- A vocabulary of one letter, whose own end id is a text that is no number. -/
def lettered : Rehearsal.WordVocabulary := ⟨[("a", 1)], none, none, [], some (.text "x")⟩

/-- A value that is no text, an id that is in no vocabulary, and an own end id that is no number. -/
theorem lettered_fails :
    ((wordy.encode (.integer 5)).perform ⟨lettered, .empty⟩).1 =
      .error (.tokenization (.notText "int")) ∧
    ((wordy.decodeValue (.list [.integer 9])).perform ⟨lettered, .empty⟩).1 =
      .error (.tokenization (.decoding "[9]" "unknown id 9")) ∧
    (wordy.endId.perform ⟨⟨lettered, none⟩, .empty⟩).1 = .error (WholeText.refusal "'x'") := by
  have readable : wordy.wrapped.Readable Rehearsal.WordVocabulary.entries
      Rehearsal.WordVocabulary.ownEnd := readable_wordTokenizer id
  have unknown : wordy.Refuses [.integer 9] ⟨lettered, .empty⟩
      (.outside .backend "unknown id 9") := .wrapped rfl rfl
  have writable : (Value.list [.integer 9]).isWritable = true :=
    @Value.isWritable_words [9] (by decide)
  refine ⟨?_, ?_, ?_⟩
  · exact ((fails_iff readable _).1 _ _).mpr (.notText rfl)
  · exact ((fails_iff readable _).2.1 _ _).mpr (.refused rfl unknown writable)
  · exact ((fails_iff readable _).2.2 _).mpr ⟨rfl, .own rfl rfl rfl nofun rfl⟩

/-- Decoding does not end with tokenization faults only, and the end id can fail. -/
theorem lettered_strays :
    ¬ (wordy.decodeValue .null).Ends (fun _ => True)
      (fun fault => fault.family? = some .tokenization) ∧
    ¬ wordy.endId.Ends (fun _ => True) fun _ => False := by
  constructor
  · intro ends
    cases ends ⟨lettered, .empty⟩
  · intro ends
    exact ends ⟨⟨lettered, none⟩, .empty⟩

end TokenizerAdapter

end RecallChat
