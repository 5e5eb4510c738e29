import RecallChat.Memory.Vector
import RecallChat.Proofs.Floating.Widening

/-!
# Products of norms

A similarity divides by the product of two norms, which are values of thirty-two bits and multiplied
in sixty-four.  There the product of values other than zero is far above the smallest positive
value, so it is not rounded to zero (`isZero_mul_convert`), and no similarity divides by zero
(`guardedCosine_eq`).
-/

set_option autoImplicit false

namespace RecallChat

/-- What is rounded at a quantum above the smallest one is not rounded to zero. -/
theorem Format.roundMagnitude_pos (format : Format) (infinity_pos : 0 < format.infinity)
    {significand : Nat} {exponent : Int} (ne : significand ≠ 0)
    (large : format.minExponent < exponent + significand.log2 - format.fractionBits) :
    0 < format.roundMagnitude significand exponent := by
  have steps : 0 < (exponent + significand.log2 - format.fractionBits -
      format.minExponent).toNat := by omega
  unfold roundMagnitude
  dsimp only
  rw [if_neg ne, Int.max_eq_left (Int.le_of_lt large), Nat.shiftLeft_eq]
  refine Nat.lt_min.mpr ⟨infinity_pos, Nat.add_pos_left ?_ _⟩
  exact Nat.mul_pos steps (Nat.two_pow_pos format.fractionBits)

namespace Floating

/-- The values that are taken from thirty-two bits to sixty-four and are not zero. -/
inductive Widened : Double → Prop
  | nan : Widened .nan
  | infinite (negative : Bool) : Widened (infinite .double negative)
  | finite (negative : Bool) {field significand : Nat} (least : 2 ^ 52 ≤ significand)
      (most : significand < 2 ^ 53) (high : 873 ≤ field)
      (below : field * 2 ^ 52 + significand < Format.double.infinity) :
      Widened (.signed negative (field * 2 ^ 52 + significand) (Nat.le_of_lt below))

theorem widened_convert {x : Single} (nonzero : x.isZero = false) :
    Widened (x.convert .double) := by
  cases x with
  | nan => exact .nan
  | signed negative magnitude bounded =>
      have ne : magnitude ≠ 0 := by simpa [isZero] using nonzero
      by_cases finite : magnitude < Format.single.infinity
      · obtain ⟨field, significand, widens, least, most, high, small, -⟩ :=
          Format.exists_wide finite ne
        have below := Format.wide_lt_infinity small most
        rw [convert_of_finite .double negative finite widens (Nat.le_of_lt below)]
        exact .finite negative least most high below
      · obtain rfl : magnitude = Format.single.infinity :=
          Nat.le_antisymm bounded (Nat.le_of_not_lt finite)
        have wide := convert_infinite .single .double negative
        unfold infinite at wide
        rw [wide]
        exact .infinite negative

theorem isZero_infinite (negative : Bool) : (infinite .double negative).isZero = false := rfl

theorem isZero_infinite_mul (negative : Bool) (y : Double) :
    ((infinite .double negative).mul y).isZero = false := by
  cases y with
  | nan => rfl
  | signed negative' magnitude bounded =>
      unfold infinite mul
      dsimp only
      rw [if_pos (.inl rfl)]
      split
      · rfl
      · exact isZero_infinite _

theorem isZero_mul_infinite (x : Double) (negative : Bool) :
    (x.mul (infinite .double negative)).isZero = false := by
  cases x with
  | nan => rfl
  | signed negative' magnitude bounded =>
      unfold infinite mul
      dsimp only
      rw [if_pos (.inr rfl)]
      split
      · rfl
      · exact isZero_infinite _

theorem Widened.isZero_mul {x y : Double} (left : Widened x) (right : Widened y) :
    (x.mul y).isZero = false := by
  cases left with
  | nan => rfl
  | infinite negative => exact isZero_infinite_mul negative _
  | @finite negative field significand least most high below =>
      cases right with
      | nan => rfl
      | infinite negative' => exact isZero_mul_infinite _ negative'
      | @finite negative' field' significand' least' most' high' below' =>
          -- the significands have a hundred and four bits, the exponents are at least minus 201
          have large : 2 ^ 104 ≤ significand * significand' :=
            Nat.pow_add 2 52 52 ▸ Nat.mul_le_mul least least'
          have ne : significand * significand' ≠ 0 := by omega
          have bits : 104 ≤ (significand * significand').log2 := (Nat.le_log2 ne).mpr large
          have positive := Format.double.roundMagnitude_pos (by decide) ne
            (show (-1074 : Int) < ((field : Int) - 1074) + ((field' : Int) - 1074) +
              ((significand * significand').log2 : Nat) - (52 : Nat) by omega)
          unfold mul
          dsimp only
          rw [if_neg (not_or.mpr ⟨Nat.ne_of_lt below, Nat.ne_of_lt below'⟩),
            Format.double_parts least most, Format.double_parts least' most']
          exact beq_eq_false_iff_ne.mpr (Nat.ne_of_gt positive)

/-- **The product of two values of thirty-two bits, neither of them zero, is not zero in
sixty-four.** -/
theorem isZero_mul_convert {x y : Single} (left : x.isZero = false) (right : y.isZero = false) :
    ((x.convert .double).mul (y.convert .double)).isZero = false :=
  (widened_convert left).isZero_mul (widened_convert right)

end Floating

namespace Vector32

/-- The similarity of two vectors, refused where it would divide by zero. -/
def guardedCosine (a b : Vector32) : Except Fault Double :=
  if a.length ≠ b.length ∨ a = [] then .ok (Floating.zero .double)
  else
    let normA := a.norm
    let normB := b.norm
    if normA.isZero || normB.isZero then .ok (Floating.zero .double)
    else
      let product := (normA.convert .double).mul (normB.convert .double)
      if product.isZero then .error (.outside .divisionByZero "float division by zero")
      else
        let score := ((a.dot b).convert .double).div product
        .ok (if score.isFinite then score else Floating.zero .double)

/-- **No similarity divides by zero.** -/
theorem guardedCosine_eq (a b : Vector32) : a.guardedCosine b = .ok (a.cosine b) := by
  unfold guardedCosine cosine
  split
  · rfl
  · dsimp only
    split
    · rfl
    case isFalse nonzero =>
      obtain ⟨left, right⟩ := Bool.or_eq_false_iff.mp (Bool.eq_false_iff.mpr nonzero)
      rw [if_neg (Bool.eq_false_iff.mp (Floating.isZero_mul_convert left right))]

end Vector32

end RecallChat
