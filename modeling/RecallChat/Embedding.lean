import RecallChat.Inference
import RecallChat.Memory.Vector
import RecallChat.Tokenizer

/-!
# Embedding

The vector of a text is the mean of a graph's hidden states over all positions, one run of the graph
for each text.  Sums and quotients are computed in thirty-two bits, and rows are added in the order
of their positions.  A numeric library can add in pairs instead where rows have a single component,
which rounds such sums differently.
-/

namespace RecallChat

set_option autoImplicit false

/-- Makes vectors of texts. -/
structure Embedder (σ : Type) where
  graph : Graph σ
  tokenizer : Tokenizer σ

/-- A world with the length of the last vector that was made in it. -/
structure Measured (σ : Type) where
  inner : σ
  dimension : Option Nat

/-- The rows of a tensor's last two dimensions. -/
def rowsOf (values : List Single) (width : Nat) : Nat → List Vector32
  | 0 => []
  | count + 1 => values.take width :: rowsOf (values.drop width) width count

/-- The sum of vectors, component by component and from the first one on.  It starts at zero, so a sum
of negative zeros is a positive one. -/
def sumRows (rows : List Vector32) : Vector32 :=
  let zeros := (rows.head?.getD []).map fun _ => Floating.zero .single
  rows.foldl (fun sum row => List.zipWith Floating.add sum row) zeros

/-- The mean of vectors, component by component, over the sum from the first one on. -/
def meanRows (rows : List Vector32) : Vector32 :=
  (sumRows rows).map fun total => total.div (Floating.ofInt .single rows.length)

/-- The mean over all positions of a tensor of shape one by length by width. -/
def meanPool (hidden : Tensor) (length : Nat) : Vector32 :=
  meanRows (rowsOf hidden.elements.toSingles.toList (hidden.shape.getLast?.getD 0) length)

namespace Embedder

variable {σ : Type}

/-- The vector of a text. -/
def vectorOf (embedder : Embedder σ) (text : Value) : Action σ Vector32 := do
  let tokens ← embedder.tokenizer.encode text
  if tokens.isEmpty then throw (.tokenization .emptyText)
  let outputs ← embedder.graph.run (← Action.ofExcept (tokenInputs tokens)) ["last_hidden_state"]
  let hidden ← Action.ofExcept (requireOutput outputs "last_hidden_state" tokens.length)
  return meanPool hidden tokens.length

/-- The vector of a text; its length is remembered. -/
def embed (embedder : Embedder σ) (text : Value) : Action (Measured σ) Vector32 := do
  let vector ← (embedder.vectorOf text).within Measured.inner
    fun inner world => { world with inner := inner }
  Action.change fun world => { world with dimension := some vector.length }
  return vector

/-- The vectors of several texts, in order. -/
def embedAll (embedder : Embedder σ) (texts : List Value) : Action (Measured σ) (List Vector32) :=
  texts.mapM embedder.embed

end Embedder

end RecallChat
