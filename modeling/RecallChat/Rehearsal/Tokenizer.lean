import RecallChat.Tokenizer

/-!
# Rehearsal tokenizers

Two simple tokenizers: one whose ids are the bytes of a text, and one with a vocabulary of words
between spaces.
-/

namespace RecallChat.Rehearsal

set_option autoImplicit false

/-! ## Bytes -/

/-- The text of one byte: a byte that is no ASCII character has none of its own. -/
def byteText (id : Int) : Except Fault (List Char) :=
  if 0 ≤ id ∧ id < 128 then .ok [Char.ofNat id.toNat]
  else if 128 ≤ id ∧ id < 256 then .ok ['\ufffd']
  else .error (.outside .backend ("byte " ++ toString id ++ " out of range"))

/-- The tokenizer of bytes, each byte decoded on its own. -/
def byteTokenizer (σ : Type) (endId : Int) : Tokenizer σ where
  encode text :=
    match text with
    | .text text => pure (text.toUTF8.toList.map fun byte => (byte.toNat : Int))
    | .illFormed _ => throw (.outside .unencodable "a text with a surrogate")
    | other =>
      throw (.outside .missingAttribute
        ("no text can be of kind " ++ other.kindName))
  decode ids :=
    Action.ofExcept ((ids.mapM byteText).map fun parts => String.ofList parts.flatten)
  endId := pure endId

/-! ## Words -/

/-- A vocabulary of words, with the ids that play a special part. -/
structure WordVocabulary where
  entries : List (String × Int)
  unknown : Option Int
  start : Option Int
  special : List Int
  ownEnd : Option Value

namespace WordVocabulary

/-- No words. -/
def empty : WordVocabulary := ⟨[], none, none, [], none⟩

instance : Inhabited WordVocabulary := ⟨empty⟩

/-- The words of a text. -/
def words (text : Text.CodePoints) : List Text.CodePoints :=
  (text.splitBy fun a b => a != 0x20 && b != 0x20).filter (· != [0x20])

/-- The id of a word; one with a surrogate is not in the vocabulary. -/
def wordId (vocabulary : WordVocabulary) (word : Text.CodePoints) : Except Fault Int :=
  match word.toString?.bind (TokenizerAdapter.idOf? vocabulary.entries), vocabulary.unknown with
  | some id, _ => .ok id
  | none, some id => .ok id
  | none, none => .error (.outside .backend ("unknown token <" ++ word.replaced ++ ">"))

/-- The ids of a text. -/
def encode (vocabulary : WordVocabulary) (text : Text.CodePoints) : Except Fault (List Int) :=
  ((words text).mapM vocabulary.wordId).map fun ids => vocabulary.start.toList ++ ids

/-- The word of an id. -/
def word (vocabulary : WordVocabulary) (id : Int) : Except Fault String :=
  match vocabulary.entries.reverse.find? fun entry => entry.2 == id with
  | some entry => .ok entry.1
  | none => .error (.outside .backend ("unknown id " ++ toString id))

/-- The text of ids; special ids are left out. -/
def decode (vocabulary : WordVocabulary) (ids : List Int) : Except Fault String :=
  ((ids.filter fun id => !vocabulary.special.contains id).mapM vocabulary.word).map
    (" ".intercalate ·)

end WordVocabulary

/-- The tokenizer of the vocabulary that a world holds. -/
def wordTokenizer {σ : Type} (vocabulary : σ → WordVocabulary) : LibraryTokenizer σ where
  size := do return (vocabulary (← Action.world)).entries.length
  vocabulary := do return (vocabulary (← Action.world)).entries
  encode text := do Action.ofExcept ((vocabulary (← Action.world)).encode text)
  decode ids := do Action.ofExcept ((vocabulary (← Action.world)).decode ids)
  ownEnd := do return (vocabulary (← Action.world)).ownEnd

end RecallChat.Rehearsal
