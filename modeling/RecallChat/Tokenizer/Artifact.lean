import RecallChat.FileSystem
import RecallChat.Tokenizer

/-!
# Tokenizer artifacts

A tokenizer is loaded from a file by a token library.  A path that leads to no file is a load fault;
a file that the library cannot read is a tokenization fault.
-/

namespace RecallChat.TokenizerAdapter

set_option autoImplicit false

variable {σ : Type}

/-- The adapter over the tokenizer of a file. -/
def ofFile (isFile : Path → Action σ Bool) (load : Path → Action σ (LibraryTokenizer σ))
    (path : Path) (endToken : Value) : Action σ (TokenizerAdapter σ) := do
  if !(← isFile path) then throw (.load path.text .tokenizerMissing [])
  match ← (load path).attempt with
  | .error fault => throw (.tokenization (.malformedArtifact path.text fault.text))
  | .ok wrapped =>
    let size ← wrapped.size
    Action.log .info logSource
      (.ofString "Loaded tokenizer from " ++ path.points ++
        .ofString (" (vocab=" ++ toString size ++ ")"))
    return ⟨wrapped, endToken⟩

end RecallChat.TokenizerAdapter
