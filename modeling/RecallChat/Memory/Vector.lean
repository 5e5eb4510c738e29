import RecallChat.Nested

/-!
# Vectors and their similarity

A vector is a list of values of thirty-two bits.  `cosine` is the quotient of the dot product by the
product of the norms: the dot product and the norms are computed in thirty-two bits, their quotient
in sixty-four.  It is zero wherever the quotient would not be a finite number, and for vectors of
different lengths, so it is defined for every pair (`cosine_isFinite`).

Sums are rounded after every addition, so their last digits depend on the order.  Here it is the
order of the components; a numeric library that adds in blocks, in pairs or in several lanes at once
can round a sum of more than a few components differently.
-/

namespace RecallChat

set_option autoImplicit false

/-- A vector of values of thirty-two bits. -/
abbrev Vector32 := List Single

namespace Vector32

/-- The vector that nested numbers denote, read in order. -/
def ofValue (value : Value) : Except Fault Vector32 := do
  let _ ← value.shape
  value.leaves.mapM Value.toSingle

/-- The vector as a list of values of sixty-four bits, each exactly as large. -/
def toValue (vector : Vector32) : Value :=
  .list (vector.map fun x => .real (x.convert .double))

/-- The dot product: the products are added one after the other, from the left. -/
def dot (a b : Vector32) : Single :=
  (a.zip b).foldl (fun sum pair => sum.add (pair.1.mul pair.2)) (Floating.zero .single)

/-- The norm, over the same order of summation as the dot product. -/
def norm (a : Vector32) : Single := (dot a a).sqrt

/-- The similarity of two vectors. -/
def cosine (a b : Vector32) : Double :=
  if a.length ≠ b.length ∨ a = [] then Floating.zero .double
  else
    let normA := a.norm
    let normB := b.norm
    if normA.isZero || normB.isZero then Floating.zero .double
    else
      let score := ((a.dot b).convert .double).div
        ((normA.convert .double).mul (normB.convert .double))
      if score.isFinite then score else Floating.zero .double

/-- The similarity is a finite number. -/
theorem cosine_isFinite (a b : Vector32) : (cosine a b).isFinite = true := by
  unfold cosine
  split
  · decide
  · dsimp only
    split
    · decide
    · split
      · assumption
      · decide

end Vector32

end RecallChat
