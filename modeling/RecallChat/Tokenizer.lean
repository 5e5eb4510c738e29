import RecallChat.Action
import RecallChat.Nested
import RecallChat.Wording

/-!
# Tokenizers

A tokenizer turns text into token ids and back, and knows the id that ends a sequence.  An adapter
makes one from a wrapped tokenizer of a token library: every fault of the wrapped one becomes a
tokenization fault, and the end id is found once, by priority: a configured token, the wrapped
tokenizer's own id, the first well-known token of the vocabulary, a fixed fallback.  The wrapped
tokenizer's vocabulary can change afterwards; the end id does not.
-/

namespace RecallChat

set_option autoImplicit false

/-- What text generation and embedding need of a tokenizer. -/
structure Tokenizer (σ : Type) where
  encode : Value → Action σ (List Int)
  decode : List Int → Action σ String
  endId : Action σ Int

/-- A tokenizer of a token library. -/
structure LibraryTokenizer (σ : Type) where
  size : Action σ Nat
  vocabulary : Action σ (List (String × Int))
  encode : Text.CodePoints → Action σ (List Int)
  decode : List Int → Action σ String
  /-- The library's own end id; it may be missing and may be any value. -/
  ownEnd : Action σ (Option Value)

/-- A tokenizer that acts on a part of a larger world. -/
def Tokenizer.within {σ τ : Type} (part : σ → τ) (put : τ → σ → σ) (tokenizer : Tokenizer τ) :
    Tokenizer σ where
  encode text := (tokenizer.encode text).within part put
  decode ids := (tokenizer.decode ids).within part put
  endId := tokenizer.endId.within part put

/-- A world with the end id that was found in it. -/
structure Adapted (σ : Type) where
  inner : σ
  endId : Option Int

/-- A wrapped tokenizer with a configured end token; `null` configures none. -/
structure TokenizerAdapter (σ : Type) where
  wrapped : LibraryTokenizer σ
  endToken : Value

namespace TokenizerAdapter

variable {σ : Type}

/-- The name under which tokenizers log. -/
def logSource : String := "tierchat.tokenizer"

/-- The end id when nothing else gives one. -/
def fallbackEnd : Int := 2

/-- Tokens that commonly end a sequence, in order of preference. -/
def commonEnds : List String := ["</s>", "<|endoftext|>", "<|im_end|>", "<|eot_id|>"]

/-- The id of a token in a vocabulary. -/
def idOf? (vocabulary : List (String × Int)) (token : String) : Option Int :=
  (vocabulary.find? fun entry => entry.1 == token).map Prod.snd

/-- The number of tokens. -/
def vocabularySize (adapter : TokenizerAdapter σ) : Action σ Nat := adapter.wrapped.size

/-- The token ids of a text. -/
def encode (adapter : TokenizerAdapter σ) (text : Value) : Action σ (List Int) :=
  match text.points? with
  | none => throw (.tokenization (.notText text.kindName))
  | some points => do
    match ← (adapter.wrapped.encode points).attempt with
    | .ok ids => return ids
    | .error fault => throw (.tokenization (.encoding fault.text))

/-- The text of a list of items that should be ids. -/
def decodeItems (adapter : TokenizerAdapter σ) (items : List Value) : Action σ String := do
  let result ← Action.attempt do
    adapter.wrapped.decode (← Action.ofExcept (items.mapM Value.toInteger))
  match result with
  | .ok text => return text
  | .error fault => do
    let quoted ← Action.ofExcept (Value.list (items.take 8)).inQuotes
    throw (.tokenization (.decoding quoted fault.text))

/-- The items of a value that should be a list of ids. -/
def itemsOf : Value → Except Fault (List Value)
  | .list items => .ok items
  | .tuple items => .ok items
  | .set items => .ok items
  | .map entries => .ok (entries.map Prod.fst)
  | .text value => .ok (value.toList.map fun c => .text (String.singleton c))
  | .illFormed points => .ok (points.map fun point => .ofPoints [point])
  | .bytes value => .ok (value.map fun byte => .integer byte.toNat)
  | other => .error (.wrongType ("no ids in a value of kind " ++ other.kindName))

/-- The text of a value that should be a list of ids. -/
def decodeValue (adapter : TokenizerAdapter σ) (ids : Value) : Action σ String := do
  adapter.decodeItems (← Action.ofExcept (itemsOf ids))

/-- The text of token ids. -/
def decode (adapter : TokenizerAdapter σ) (ids : List Int) : Action σ String :=
  adapter.decodeItems (ids.map .integer)

/-- The id of the configured end token, if it is in the vocabulary. -/
def configuredEnd? (adapter : TokenizerAdapter σ) (vocabulary : List (String × Int)) :
    Except Fault (Option Int) :=
  match adapter.endToken with
  | .text token => .ok (idOf? vocabulary token)
  | other =>
    if other.isHashable then .ok none
    else .error (.wrongType ("no token can be of kind " ++ other.kindName))

/-- The end id by priority. -/
def findEnd (adapter : TokenizerAdapter σ) : Action σ Int := do
  let vocabulary ← adapter.wrapped.vocabulary
  match ← Action.ofExcept (adapter.configuredEnd? vocabulary) with
  | some id => return id
  | none =>
    match ← adapter.wrapped.ownEnd with
    | some (.null) | none =>
      match commonEnds.findSome? (idOf? vocabulary) with
      | some id => return id
      | none =>
        Action.log .warning logSource
          (.ofString ("No end-of-sequence token in vocabulary; using fallback id " ++
            toString fallbackEnd))
        return fallbackEnd
    | some own => Action.ofExcept own.toInteger

/-- The end id, found on first use. -/
def endId (adapter : TokenizerAdapter σ) : Action (Adapted σ) Int := do
  match (← Action.world).endId with
  | some id => return id
  | none =>
    let id ← adapter.findEnd.within Adapted.inner fun inner world => { world with inner := inner }
    Action.change fun world => { world with endId := some id }
    return id

/-- The adapter as a tokenizer; its world remembers the end id. -/
def tokenizer (adapter : TokenizerAdapter σ) : Tokenizer (Adapted σ) :=
  let put (inner : σ) (world : Adapted σ) : Adapted σ := { world with inner := inner }
  { encode := fun text => (adapter.encode text).within Adapted.inner put
    decode := fun ids => (adapter.decode ids).within Adapted.inner put
    endId := adapter.endId }

end TokenizerAdapter

end RecallChat
