import RecallChat.Proofs.Floating.Widening
import Mathlib.Algebra.Order.Field.Power
import Mathlib.Algebra.Order.Ring.Rat
import Mathlib.Tactic.Linarith
import Mathlib.Tactic.Positivity
import Mathlib.Tactic.Ring

/-!
# Rounding to nearest

Every value but a NaN stands for an exact rational number (`Floating.exact`); an infinity stands for
the number one step above the greatest finite value.  Rounding gives the value whose number is
nearest to the one that is rounded, and of two that are as near the one with the even magnitude
(`Floating.Nearest`).  This holds for all magnitudes of a significand and an exponent, subnormal,
normal and too large ones alike (`Format.roundMagnitude_nearest`), hence for converting a value to
another format and for integers (`convert_nearest`, `ofInt_nearest`).

Within one binade magnitudes are the whole multiples of one power of two, so rounding there is
rounding to a whole number (`Format.Settles`); and magnitudes are ordered as their numbers are
(`Format.exact_strictMono`), so no number farther away can be nearer.
-/

set_option autoImplicit false

namespace RecallChat

namespace Format

/-! ## Exact numbers -/

/-- The number that a magnitude stands for. -/
def exact (format : Format) (magnitude : Nat) : ℚ :=
  (format.parts magnitude).1 * 2 ^ (format.parts magnitude).2

variable {format : Format} {scale significand : Nat}

/-- A magnitude of the binade of a scale is a multiple of the binade's power of two, also where it
is the first one of the next binade. -/
theorem exact_grid (filled : scale = 0 ∨ 2 ^ format.fractionBits ≤ significand)
    (small : significand ≤ 2 * 2 ^ format.fractionBits) :
    format.exact (scale * 2 ^ format.fractionBits + significand) =
      significand * 2 ^ (format.minExponent + scale) := by
  have positive : 0 < 2 ^ format.fractionBits := Nat.two_pow_pos _
  have quotient : (scale * 2 ^ format.fractionBits + significand) / 2 ^ format.fractionBits =
      scale + significand / 2 ^ format.fractionBits := by
    rw [Nat.mul_comm, Nat.mul_add_div positive]
  have remainder : (scale * 2 ^ format.fractionBits + significand) % 2 ^ format.fractionBits =
      significand % 2 ^ format.fractionBits := by
    rw [Nat.mul_comm, Nat.mul_add_mod]
  unfold exact parts
  dsimp only
  rw [Nat.shiftRight_eq_div_pow, quotient, remainder]
  rcases Nat.lt_or_ge significand (2 ^ format.fractionBits) with below | above
  · have first : scale = 0 := filled.resolve_right (Nat.not_le.mpr below)
    subst first
    rw [Nat.div_eq_of_lt below, Nat.mod_eq_of_lt below, if_pos rfl]
    simp
  · rcases Nat.lt_or_ge significand (2 * 2 ^ format.fractionBits) with inside | outside
    · have one : significand / 2 ^ format.fractionBits = 1 := by
        rw [Nat.div_eq_of_lt_le] <;> omega
      have rest :
          significand % 2 ^ format.fractionBits + 2 ^ format.fractionBits = significand := by
        rw [Nat.mod_eq_sub_mod above, Nat.mod_eq_of_lt (by omega)]
        omega
      have exponent : format.minExponent + ((scale + 1 : Nat) : Int) - 1 =
          format.minExponent + scale := by omega
      rw [one, if_neg (Nat.succ_ne_zero scale), rest, exponent]
    · obtain rfl : significand = 2 * 2 ^ format.fractionBits := Nat.le_antisymm small outside
      have exponent : format.minExponent + ((scale + 2 : Nat) : Int) - 1 =
          format.minExponent + scale + 1 := by omega
      rw [Nat.mul_div_cancel _ positive, Nat.mul_mod_left, if_neg (Nat.succ_ne_zero _), exponent,
        Nat.zero_add, zpow_add_one₀ two_ne_zero]
      push_cast
      ring

/-- Every magnitude lies in the binade of some scale. -/
theorem exists_grid (format : Format) (magnitude : Nat) : ∃ scale significand : Nat,
    magnitude = scale * 2 ^ format.fractionBits + significand ∧
      (scale = 0 ∨ 2 ^ format.fractionBits ≤ significand) ∧
      significand < 2 * 2 ^ format.fractionBits := by
  have positive : 0 < 2 ^ format.fractionBits := Nat.two_pow_pos _
  have whole := Nat.div_add_mod' magnitude (2 ^ format.fractionBits)
  have fraction := Nat.mod_lt magnitude positive
  cases field : magnitude / 2 ^ format.fractionBits with
  | zero =>
      rw [field] at whole
      exact ⟨0, magnitude % 2 ^ format.fractionBits, whole.symm, .inl rfl, by omega⟩
  | succ scale =>
      rw [field, Nat.succ_mul] at whole
      exact ⟨scale, 2 ^ format.fractionBits + magnitude % 2 ^ format.fractionBits, by omega,
        .inr (Nat.le_add_right _ _), by omega⟩

theorem exact_lt_succ (format : Format) (magnitude : Nat) :
    format.exact magnitude < format.exact (magnitude + 1) := by
  obtain ⟨scale, significand, rfl, filled, small⟩ := format.exists_grid magnitude
  have filled' : scale = 0 ∨ 2 ^ format.fractionBits ≤ significand + 1 :=
    filled.imp_right Nat.le_succ_of_le
  rw [exact_grid filled (Nat.le_of_lt small), Nat.add_assoc, exact_grid filled' small]
  have unit : (0 : ℚ) < 2 ^ (format.minExponent + scale) := by positivity
  push_cast
  linarith

/-- **Magnitudes are ordered as the numbers that they stand for.** -/
theorem exact_strictMono (format : Format) : StrictMono format.exact :=
  strictMono_nat_of_lt_succ format.exact_lt_succ

theorem exact_zero (format : Format) : format.exact 0 = 0 := by
  have zero : format.exact (0 * 2 ^ format.fractionBits + 0) =
      ((0 : Nat) : ℚ) * 2 ^ (format.minExponent + (0 : Nat)) :=
    exact_grid (.inl rfl) (Nat.zero_le _)
  simpa using zero

theorem exact_nonneg (format : Format) (magnitude : Nat) : 0 ≤ format.exact magnitude := by
  rw [← format.exact_zero]
  exact format.exact_strictMono.monotone (Nat.zero_le magnitude)

/-! ## Rounding to a whole number -/

/-- That a whole number is nearest to a number, and even if another one is as near. -/
structure Settles (whole : Nat) (number : ℚ) : Prop where
  near : |(whole : ℚ) - number| ≤ 1 / 2
  even : |(whole : ℚ) - number| = 1 / 2 → whole % 2 = 0

theorem settles_self (whole : Nat) : Settles whole whole where
  near := by simp
  even := by
    intro tie
    simp at tie

/-- With a fraction of at most a half, the whole part is nearest. -/
theorem settles_floor {whole : Nat} {fraction : ℚ} (nonneg : 0 ≤ fraction)
    (le : fraction ≤ 1 / 2) (tie : fraction = 1 / 2 → whole % 2 = 0) :
    Settles whole (whole + fraction) := by
  have distance : |(whole : ℚ) - (whole + fraction)| = fraction := by
    rw [abs_of_nonpos] <;> linarith
  exact ⟨distance.trans_le le, fun middle => tie (distance.symm.trans middle)⟩

/-- With a fraction of at least a half, the next whole number is nearest. -/
theorem settles_ceil {whole : Nat} {fraction : ℚ} (ge : 1 / 2 ≤ fraction) (le : fraction ≤ 1)
    (tie : fraction = 1 / 2 → (whole + 1) % 2 = 0) : Settles (whole + 1) (whole + fraction) := by
  have distance : |((whole + 1 : Nat) : ℚ) - (whole + fraction)| = 1 - fraction := by
    push_cast
    rw [abs_of_nonneg] <;> linarith
  constructor
  · rw [distance]
    linarith
  · intro middle
    rw [distance] at middle
    exact tie (by linarith)

/-- Shifting to the right rounds to the nearest whole number. -/
theorem roundShift_settles (significand shift : Nat) :
    Settles (roundShift significand shift) (significand / 2 ^ shift) := by
  have whole := Nat.div_add_mod significand (2 ^ shift)
  have below := Nat.mod_lt significand (Nat.two_pow_pos shift)
  have shown : roundShift significand shift =
      if 2 ^ shift < 2 * (significand % 2 ^ shift) ∨
          2 * (significand % 2 ^ shift) = 2 ^ shift ∧ significand / 2 ^ shift % 2 = 1 then
        significand / 2 ^ shift + 1
      else significand / 2 ^ shift := by
    unfold roundShift
    rw [Nat.shiftRight_eq_div_pow]
  rw [shown]
  generalize significand / 2 ^ shift = quotient at *
  generalize significand % 2 ^ shift = remainder at *
  have positive : (0 : ℚ) < 2 ^ shift := by positivity
  have number : (significand : ℚ) / 2 ^ shift = quotient + remainder / 2 ^ shift := by
    rw [← whole]
    push_cast
    rw [add_div, mul_div_cancel_left₀ _ positive.ne']
  have middle : (remainder : ℚ) / 2 ^ shift = 1 / 2 → 2 * remainder = 2 ^ shift := by
    intro half
    rw [div_eq_div_iff positive.ne' two_ne_zero] at half
    have half' : remainder * 2 = 1 * 2 ^ shift := by exact_mod_cast half
    omega
  rw [number]
  split
  · next up =>
    refine settles_ceil ?_ ?_ fun half => ?_
    · rw [div_le_div_iff₀ two_pos positive]
      exact_mod_cast (by omega : 1 * 2 ^ shift ≤ remainder * 2)
    · rw [div_le_one positive]
      exact_mod_cast below.le
    · have tie := middle half
      omega
  · next down =>
    refine settles_floor (by positivity) ?_ fun half => ?_
    · rw [div_le_div_iff₀ positive two_pos]
      exact_mod_cast (by omega : remainder * 2 ≤ 1 * 2 ^ shift)
    · have tie := middle half
      omega

/-! ## The nearest magnitude -/

/-- That no magnitude stands for a number nearer to a given one, and that a magnitude is even where
another one is as near. -/
structure Nearest (format : Format) (magnitude : Nat) (number : ℚ) : Prop where
  near : ∀ other, |format.exact magnitude - number| ≤ |format.exact other - number|
  even : ∀ other ≠ magnitude,
    |format.exact other - number| = |format.exact magnitude - number| → magnitude % 2 = 0

/-- Every magnitude above one of a binade is at least a step above it. -/
theorem step_le_of_lt (filled : scale = 0 ∨ 2 ^ format.fractionBits ≤ significand)
    (small : significand ≤ 2 * 2 ^ format.fractionBits) {other : Nat}
    (above : scale * 2 ^ format.fractionBits + significand < other) :
    ((significand : ℚ) + 1) * 2 ^ (format.minExponent + scale) ≤ format.exact other := by
  refine le_trans ?_ (format.exact_strictMono.monotone (Nat.succ_le_of_lt above))
  rcases Nat.lt_or_ge significand (2 * 2 ^ format.fractionBits) with inside | outside
  · have filled' : scale = 0 ∨ 2 ^ format.fractionBits ≤ significand + 1 :=
      filled.imp_right Nat.le_succ_of_le
    rw [Nat.succ_eq_add_one, Nat.add_assoc, exact_grid filled' inside]
    push_cast
    exact le_refl _
  · -- the next magnitude is the second one of the next binade, where steps are twice as long
    obtain rfl : significand = 2 * 2 ^ format.fractionBits := Nat.le_antisymm small outside
    have positive : 0 < 2 ^ format.fractionBits := Nat.two_pow_pos _
    have next : (scale * 2 ^ format.fractionBits + 2 * 2 ^ format.fractionBits).succ =
        (scale + 1) * 2 ^ format.fractionBits + (2 ^ format.fractionBits + 1) := by
      rw [Nat.add_mul]
      omega
    have exponent : format.minExponent + ((scale + 1 : Nat) : Int) =
        format.minExponent + scale + 1 := by omega
    have unit : (0 : ℚ) < 2 ^ (format.minExponent + scale) := by positivity
    rw [next, exact_grid (.inr (Nat.le_succ _)) (by omega), exponent, zpow_add_one₀ two_ne_zero]
    push_cast
    linarith

/-- Every magnitude below one of a binade, but not the first one, is at least a step below it. -/
theorem le_step_of_lt (inner : scale = 0 ∨ 2 ^ format.fractionBits < significand)
    (small : significand ≤ 2 * 2 ^ format.fractionBits) {other : Nat}
    (below : other < scale * 2 ^ format.fractionBits + significand) :
    format.exact other ≤ ((significand : ℚ) - 1) * 2 ^ (format.minExponent + scale) := by
  obtain ⟨before, rfl⟩ : ∃ before, significand = before + 1 := by
    refine ⟨significand - 1, ?_⟩
    rcases inner with rfl | inner <;> omega
  have filled : scale = 0 ∨ 2 ^ format.fractionBits ≤ before := inner.imp_right Nat.le_of_lt_succ
  have le : other ≤ scale * 2 ^ format.fractionBits + before := Nat.le_of_lt_succ below
  refine le_trans (format.exact_strictMono.monotone le) ?_
  rw [exact_grid filled (Nat.le_of_succ_le small)]
  push_cast
  linarith

/-- Every other magnitude is at least half a step away from a number that a magnitude of a binade is
near to, or farther away than this one. -/
theorem Settles.apart {ratio : ℚ} (settles : Settles significand ratio)
    (filled : scale = 0 ∨ 2 ^ format.fractionBits ≤ significand)
    (small : significand ≤ 2 * 2 ^ format.fractionBits)
    (lower : scale = 0 ∨ 2 ^ format.fractionBits ≤ ratio) {other : Nat}
    (ne : other ≠ scale * 2 ^ format.fractionBits + significand) :
    1 / 2 * 2 ^ (format.minExponent + scale) ≤
        |format.exact other - ratio * 2 ^ (format.minExponent + scale)| ∨
      |(significand : ℚ) - ratio| * 2 ^ (format.minExponent + scale) <
        |format.exact other - ratio * 2 ^ (format.minExponent + scale)| := by
  have unit : (0 : ℚ) < 2 ^ (format.minExponent + scale) := by positivity
  obtain ⟨least, most⟩ := abs_le.mp settles.near
  rcases Nat.lt_or_gt_of_ne ne with below | above
  · by_cases inner : scale = 0 ∨ 2 ^ format.fractionBits < significand
    · have step := le_step_of_lt inner small below
      refine .inl (le_trans ?_ (neg_le_abs _))
      nlinarith
    · -- below the first magnitude of a binade steps are shorter, but the number is not below it
      obtain ⟨later, first⟩ := not_or.mp inner
      have start : significand = 2 ^ format.fractionBits :=
        Nat.le_antisymm (Nat.le_of_not_lt first) (filled.resolve_left later)
      have reached : (significand : ℚ) ≤ ratio := by
        rw [start]
        exact_mod_cast lower.resolve_left later
      have lower' := format.exact_strictMono below
      rw [exact_grid filled small] at lower'
      refine .inr (lt_of_lt_of_le ?_ (neg_le_abs _))
      rw [abs_of_nonpos (by linarith)]
      linarith
  · have step := step_le_of_lt filled small above
    refine .inl (le_trans ?_ (le_abs_self _))
    nlinarith

/-- What is rounded to a whole number of steps within a binade is rounded to the nearest
magnitude. -/
theorem Settles.nearest {ratio : ℚ} (settles : Settles significand ratio)
    (fraction : 0 < format.fractionBits) (lower : scale = 0 ∨ 2 ^ format.fractionBits ≤ ratio)
    (upper : ratio < 2 * 2 ^ format.fractionBits) :
    format.Nearest (scale * 2 ^ format.fractionBits + significand)
      (ratio * 2 ^ (format.minExponent + scale)) := by
  have unit : (0 : ℚ) < 2 ^ (format.minExponent + scale) := by positivity
  obtain ⟨least, most⟩ := abs_le.mp settles.near
  have small : significand ≤ 2 * 2 ^ format.fractionBits := by
    have bound : (significand : ℚ) < (2 * 2 ^ format.fractionBits + 1 : Nat) := by
      push_cast
      linarith
    exact Nat.le_of_lt_succ (by exact_mod_cast bound)
  have filled : scale = 0 ∨ 2 ^ format.fractionBits ≤ significand := by
    refine lower.imp_right fun lower => ?_
    have bound : ((2 ^ format.fractionBits : Nat) : ℚ) < (significand + 1 : Nat) := by
      push_cast
      linarith
    exact Nat.le_of_lt_succ (by exact_mod_cast bound)
  have own : |format.exact (scale * 2 ^ format.fractionBits + significand) -
      ratio * 2 ^ (format.minExponent + scale)| =
        |(significand : ℚ) - ratio| * 2 ^ (format.minExponent + scale) := by
    rw [exact_grid filled small, ← sub_mul, abs_mul, abs_of_pos unit]
  have half : |(significand : ℚ) - ratio| * 2 ^ (format.minExponent + scale) ≤
      1 / 2 * 2 ^ (format.minExponent + scale) :=
    mul_le_mul_of_nonneg_right settles.near unit.le
  constructor
  · intro other
    by_cases same : other = scale * 2 ^ format.fractionBits + significand
    · rw [same]
    · rw [own]
      rcases settles.apart filled small lower same with far | farther
      · exact half.trans far
      · exact farther.le
  · intro other ne tie
    rw [own] at tie
    rcases settles.apart filled small lower ne with far | farther
    · have middle : |(significand : ℚ) - ratio| = 1 / 2 := by
        refine le_antisymm settles.near (le_of_mul_le_mul_right ?_ unit)
        rw [← tie]
        exact far
      have whole := settles.even middle
      obtain ⟨bits, width⟩ := Nat.exists_eq_succ_of_ne_zero fraction.ne'
      rw [width, Nat.pow_succ, ← Nat.mul_assoc]
      omega
    · exact absurd tie farther.ne'

/-- Scaled by a power of two, a significand has at most the bits that its own come to. -/
theorem mul_zpow_lt {significand width : Nat} {shift : Int}
    (few : shift + significand.log2 ≤ width) :
    (significand : ℚ) * 2 ^ shift < 2 * 2 ^ width := by
  have power : (significand : ℚ) < 2 ^ ((significand.log2 : Int) + 1) := by
    exact_mod_cast Nat.lt_log2_self (n := significand)
  calc
    (significand : ℚ) * 2 ^ shift < 2 ^ ((significand.log2 : Int) + 1) * 2 ^ shift :=
      mul_lt_mul_of_pos_right power (by positivity)
    _ = 2 ^ ((significand.log2 : Int) + 1 + shift) := (zpow_add₀ two_ne_zero _ _).symm
    _ ≤ 2 ^ (1 + (width : Int)) := zpow_le_zpow_right₀ one_le_two (by omega)
    _ = 2 * 2 ^ width := by rw [zpow_add₀ two_ne_zero, zpow_one, zpow_natCast]

/-- Scaled by a power of two, a significand has as many bits as its own come to. -/
theorem le_mul_zpow {significand width : Nat} {shift : Int} (ne : significand ≠ 0)
    (many : shift + significand.log2 = width) : (2 : ℚ) ^ width ≤ significand * 2 ^ shift := by
  have power : (2 : ℚ) ^ (significand.log2 : Int) ≤ significand := by
    exact_mod_cast Nat.log2_self_le ne
  calc
    (2 : ℚ) ^ width = 2 ^ ((significand.log2 : Int) + shift) := by
      rw [← zpow_natCast, ← many, Int.add_comm]
    _ = 2 ^ (significand.log2 : Int) * 2 ^ shift := zpow_add₀ two_ne_zero _ _
    _ ≤ significand * 2 ^ shift := mul_le_mul_of_nonneg_right power (by positivity)

/-- Rounding a significand with an exponent gives the nearest magnitude, or the one of infinity
where that is less. -/
theorem exists_nearest (fraction : 0 < format.fractionBits) (significand : Nat) (exponent : Int) :
    ∃ magnitude, format.roundMagnitude significand exponent = min format.infinity magnitude ∧
      format.Nearest magnitude (significand * 2 ^ exponent) := by
  by_cases zero : significand = 0
  · subst zero
    refine ⟨0, (if_pos rfl).trans (Nat.min_zero _).symm, ?_, fun _ _ _ => rfl⟩
    intro other
    simp [format.exact_zero]
  obtain ⟨quantum, quantum_eq⟩ : ∃ quantum, max (exponent + significand.log2 - format.fractionBits)
    format.minExponent = quantum := ⟨_, rfl⟩
  obtain ⟨scale, scale_eq⟩ : ∃ scale : Nat, format.minExponent + scale = quantum :=
    ⟨(quantum - format.minExponent).toNat, by omega⟩
  have offset : (quantum - format.minExponent).toNat = scale := by omega
  -- what is rounded is a ratio of the step of its binade
  obtain ⟨ratio, ratio_eq⟩ : ∃ ratio : ℚ, ratio = significand * 2 ^ (exponent - quantum) := ⟨_, rfl⟩
  have number : (significand : ℚ) * 2 ^ exponent = ratio * 2 ^ (format.minExponent + scale) := by
    rw [ratio_eq, scale_eq, mul_assoc, ← zpow_add₀ two_ne_zero, sub_add_cancel]
  have upper : ratio < 2 * 2 ^ format.fractionBits := by
    rw [ratio_eq]
    exact mul_zpow_lt (by omega)
  have lower : scale = 0 ∨ 2 ^ format.fractionBits ≤ ratio := by
    by_cases first : scale = 0
    · exact .inl first
    · rw [ratio_eq]
      exact .inr (le_mul_zpow zero (by omega))
  rcases lt_or_ge exponent quantum with rounds | whole
  · have shifted : ratio = significand / 2 ^ (quantum - exponent).toNat := by
      rw [ratio_eq, div_eq_mul_inv, ← zpow_natCast, ← zpow_neg]
      congr 2
      omega
    refine ⟨_, format.roundMagnitude_of_lt zero quantum_eq rounds, ?_⟩
    rw [offset, number]
    refine Settles.nearest ?_ fraction lower upper
    rw [shifted]
    exact roundShift_settles _ _
  · have shifted : ratio = (significand * 2 ^ (exponent - quantum).toNat : Nat) := by
      rw [ratio_eq]
      push_cast
      rw [← zpow_natCast]
      congr 2
      omega
    refine ⟨_, format.roundMagnitude_of_le zero quantum_eq whole, ?_⟩
    rw [offset, number]
    refine Settles.nearest ?_ fraction lower upper
    rw [shifted]
    exact settles_self _

/-- Up to a bound, the bound is nearest to what is nearest to a magnitude above it. -/
theorem Nearest.bounded {magnitude bound other : Nat} {number : ℚ}
    (nearest : format.Nearest magnitude number) (le : other ≤ bound) :
    |format.exact (min bound magnitude) - number| ≤ |format.exact other - number| ∧
      (other ≠ min bound magnitude →
        |format.exact other - number| = |format.exact (min bound magnitude) - number| →
        min bound magnitude % 2 = 0) := by
  rcases le_or_gt magnitude bound with inside | outside
  · rw [Nat.min_eq_right inside]
    exact ⟨nearest.near other, nearest.even other⟩
  · rw [Nat.min_eq_left outside.le]
    have reached : format.exact bound ≤ number := by
      by_contra beyond
      have last := nearest.near bound
      have step := format.exact_strictMono outside
      rw [abs_of_pos (by linarith), abs_of_pos (by linarith)] at last
      linarith
    have ordered := format.exact_strictMono.monotone le
    rw [abs_of_nonpos (by linarith), abs_of_nonpos (by linarith)]
    refine ⟨by linarith, fun ne tie => ?_⟩
    have below := format.exact_strictMono (Nat.lt_of_le_of_ne le ne)
    linarith

/-- **Rounding gives the nearest magnitude**, and of two that are as near the even one. -/
theorem roundMagnitude_nearest (fraction : 0 < format.fractionBits) (significand : Nat)
    (exponent : Int) {other : Nat} (le : other ≤ format.infinity) :
    |format.exact (format.roundMagnitude significand exponent) - significand * 2 ^ exponent| ≤
        |format.exact other - significand * 2 ^ exponent| ∧
      (other ≠ format.roundMagnitude significand exponent →
        |format.exact other - significand * 2 ^ exponent| =
          |format.exact (format.roundMagnitude significand exponent) -
            significand * 2 ^ exponent| →
        format.roundMagnitude significand exponent % 2 = 0) := by
  obtain ⟨magnitude, rounded, nearest⟩ := exists_nearest fraction significand exponent
  rw [rounded]
  exact nearest.bounded le

end Format

namespace Floating

variable {format : Format}

/-! ## Values -/

/-- The number that a value stands for, zero for a NaN. -/
def exact : Floating format → ℚ
  | .nan => 0
  | .signed negative magnitude _ =>
    if negative then -format.exact magnitude else format.exact magnitude

/-- Whether a value has a minus sign. -/
def isNegative : Floating format → Bool
  | .nan => false
  | .signed negative _ _ => negative

/-- That a value is nearest to a number, and has an even magnitude where another one is as near. -/
structure Nearest (x : Floating format) (number : ℚ) : Prop where
  isNaN_eq : x.isNaN = false
  near : ∀ y : Floating format, y.isNaN = false → |x.exact - number| ≤ |y.exact - number|
  even : ∀ y : Floating format, y.isNaN = false → |y.exact - number| = |x.exact - number| →
    y.exact = x.exact ∨ ∃ negative magnitude bounded,
      x = .signed negative magnitude bounded ∧ magnitude % 2 = 0

theorem exact_signed (negative : Bool) {magnitude : Nat} (bounded : magnitude ≤ format.infinity) :
    (signed negative magnitude bounded).exact =
      (if negative then -1 else 1) * format.exact magnitude := by
  cases negative <;> simp [exact]

/-- Of the same sign, values are as far apart as their magnitudes. -/
theorem abs_sub_same (negative : Bool) (a b : ℚ) :
    |(if negative then -1 else 1) * a - (if negative then -1 else 1) * b| = |a - b| := by
  cases negative
  · simp
  · simp [neg_add_eq_sub, abs_sub_comm]

/-- Of different signs, values are as far apart as their magnitudes are from zero. -/
theorem abs_sub_other (negative : Bool) {a b : ℚ} (a_nonneg : 0 ≤ a) (b_nonneg : 0 ≤ b) :
    |(if !negative then -1 else 1) * a - (if negative then -1 else 1) * b| = a + b := by
  cases negative
  · simp only [Bool.not_false, if_true, Bool.false_eq_true, if_false]
    rw [abs_of_nonpos] <;> linarith
  · simp only [Bool.not_true, Bool.false_eq_true, if_false, if_true]
    rw [abs_of_nonneg] <;> linarith

/-- **Rounding gives the nearest value.** -/
theorem round_nearest (fraction : 0 < format.fractionBits) (negative : Bool) (significand : Nat)
    (exponent : Int) :
    (round format negative significand exponent).Nearest
      ((if negative then -1 else 1) * (significand * 2 ^ exponent)) := by
  have nearest := fun {other : Nat} (le : other ≤ format.infinity) =>
    format.roundMagnitude_nearest fraction significand exponent le
  have number : (0 : ℚ) ≤ significand * 2 ^ exponent := by positivity
  have own : |(round format negative significand exponent).exact -
      (if negative then -1 else 1) * (significand * 2 ^ exponent)| =
        |format.exact (format.roundMagnitude significand exponent) -
          significand * 2 ^ exponent| := by
    rw [round, exact_signed, abs_sub_same]
  obtain ⟨fromZero, evenAtZero⟩ := nearest (Nat.zero_le _)
  rw [format.exact_zero, zero_sub, abs_neg, abs_of_nonneg number] at fromZero evenAtZero
  refine ⟨rfl, ?_, ?_⟩
  · intro y proper
    cases y with
    | nan => cases proper
    | signed negative' magnitude bounded =>
        rw [own, exact_signed]
        by_cases same : negative' = negative
        · rw [same, abs_sub_same]
          exact (nearest bounded).1
        · rw [Bool.eq_not_of_ne same, abs_sub_other negative (format.exact_nonneg magnitude) number]
          linarith [format.exact_nonneg magnitude]
  · intro y proper tie
    cases y with
    | nan => cases proper
    | signed negative' magnitude bounded =>
        rw [own, exact_signed] at tie
        by_cases same : negative' = negative
        · rw [same, abs_sub_same] at tie
          by_cases equal : magnitude = format.roundMagnitude significand exponent
          · left
            rw [round, exact_signed, exact_signed, same, equal]
          · exact .inr ⟨_, _, _, rfl, (nearest bounded).2 equal tie⟩
        · -- a value of the other sign is as near only if it is zero
          have nonneg := format.exact_nonneg magnitude
          rw [Bool.eq_not_of_ne same, abs_sub_other negative nonneg number] at tie
          have zero : format.exact magnitude = 0 := by linarith
          by_cases equal : 0 = format.roundMagnitude significand exponent
          · left
            rw [round, exact_signed, exact_signed, zero, ← equal, format.exact_zero, mul_zero,
              mul_zero]
          · exact .inr ⟨_, _, _, rfl, evenAtZero equal (by linarith)⟩

/-- **A finite value is converted to the nearest value of the other format**, with its sign. -/
theorem convert_nearest (target : Format) (fraction : 0 < target.fractionBits) {x : Floating format}
    (finite : x.isFinite = true) :
    (x.convert target).Nearest x.exact ∧ (x.convert target).isNegative = x.isNegative := by
  cases x with
  | nan => cases finite
  | signed negative magnitude bounded =>
      have below : magnitude < format.infinity := of_decide_eq_true finite
      rw [exact_signed, convert, if_pos below]
      exact ⟨round_nearest fraction negative _ _, rfl⟩

/-- **An integer is converted to the nearest value**, with its sign. -/
theorem ofInt_nearest (format : Format) (fraction : 0 < format.fractionBits) (n : Int) :
    (ofInt format n).Nearest n ∧ (ofInt format n).isNegative = decide (n < 0) := by
  have number : ((if decide (n < 0) then -1 else 1) * ((n.natAbs : ℚ) * 2 ^ (0 : Int))) = n := by
    rw [zpow_zero, mul_one, Nat.cast_natAbs]
    by_cases negative : n < 0
    · simp [negative, abs_of_neg negative]
    · simp [negative, abs_of_nonneg (Int.not_lt.mp negative)]
  refine ⟨?_, rfl⟩
  have nearest := round_nearest fraction (decide (n < 0)) n.natAbs 0
  rwa [number] at nearest

/-- A number that some value stands for is rounded to a value that stands for it. -/
theorem Nearest.exact_eq {x y : Floating format} {number : ℚ} (nearest : x.Nearest number)
    (proper : y.isNaN = false) (stands : y.exact = number) : x.exact = number := by
  have near := nearest.near y proper
  rw [stands, sub_self, abs_zero] at near
  exact sub_eq_zero.mp (abs_nonpos_iff.mp near)

/-- A significand that was shifted to fill the fraction of sixty-four bits keeps its number. -/
theorem exact_double_filled {significand shift : Nat} (ne : significand ≠ 0)
    (filled : significand.log2 + shift = 52) (field : Nat) :
    Format.double.exact (field * 2 ^ 52 + significand * 2 ^ shift) =
      significand * 2 ^ ((field : Int) - 1074 + shift) := by
  have ne' : significand * 2 ^ shift ≠ 0 :=
    Nat.mul_ne_zero ne (Nat.ne_of_gt (Nat.two_pow_pos shift))
  have bits : (significand * 2 ^ shift).log2 = 52 := (log2_mul_two_pow ne shift).trans filled
  have least : 2 ^ 52 ≤ significand * 2 ^ shift := (Nat.le_log2 ne').mp bits.ge
  have most : significand * 2 ^ shift < 2 ^ 53 := (Nat.log2_lt ne').mp (by omega)
  have grid : Format.double.exact
      (field * 2 ^ Format.double.fractionBits + significand * 2 ^ shift) =
      (significand * 2 ^ shift : Nat) * 2 ^ (Format.double.minExponent + field) :=
    Format.exact_grid (.inr least) most.le
  refine grid.trans ?_
  have exponent : (field : Int) - 1074 + shift = shift + (Format.double.minExponent + field) := by
    rw [show Format.double.minExponent = -1074 from rfl]
    omega
  rw [exponent, zpow_add₀ two_ne_zero (shift : Int), zpow_natCast, ← mul_assoc, Nat.cast_mul,
    Nat.cast_pow, Nat.cast_ofNat]

/-- Every natural of at most fifty-three bits is a magnitude of sixty-four. -/
theorem exists_double {n : Nat} (few : n < 2 ^ 53) :
    ∃ magnitude ≤ Format.double.infinity, Format.double.exact magnitude = n := by
  by_cases zero : n = 0
  · exact ⟨0, Nat.zero_le _, by rw [Format.exact_zero, zero, Nat.cast_zero]⟩
  have most : n.log2 < 53 := (Nat.log2_lt zero).mpr few
  obtain ⟨shift, filled⟩ : ∃ shift, n.log2 + shift = 52 := ⟨52 - n.log2, by omega⟩
  have ne : n * 2 ^ shift ≠ 0 := Nat.mul_ne_zero zero (Nat.ne_of_gt (Nat.two_pow_pos shift))
  have below : n * 2 ^ shift < 2 ^ 53 := by
    rw [← Nat.log2_lt ne, log2_mul_two_pow zero shift, filled]
    decide
  have exponent : ((1074 - shift : Nat) : Int) - 1074 + shift = 0 := by omega
  refine ⟨(1074 - shift) * 2 ^ 52 + n * 2 ^ shift, ?_, ?_⟩
  · rw [show Format.double.infinity = 2047 * 2 ^ 52 from rfl]
    omega
  · rw [exact_double_filled zero filled, exponent, zpow_zero, mul_one]

/-- **An integer of at most fifty-three bits is a value of sixty-four.** -/
theorem exact_ofInt_double {n : Int} (few : n.natAbs < 2 ^ 53) : (ofInt .double n).exact = n := by
  obtain ⟨magnitude, bounded, stands⟩ := exists_double few
  refine (ofInt_nearest .double (by decide) n).1.exact_eq
    (y := .signed (decide (n < 0)) magnitude bounded) rfl ?_
  rw [exact_signed, stands, Nat.cast_natAbs]
  by_cases negative : n < 0
  · simp [negative, abs_of_neg negative]
  · simp [negative, abs_of_nonneg (Int.not_lt.mp negative)]

/-- A finite magnitude of thirty-two bits is widened to a magnitude of sixty-four with its number. -/
theorem exact_double_of_single {magnitude : Nat} (finite : magnitude < Format.single.infinity) :
    Format.double.exact (Format.double.roundMagnitude (Format.single.parts magnitude).1
      (Format.single.parts magnitude).2) = Format.single.exact magnitude := by
  obtain ⟨significand, scale, parts, bound, small, _, _⟩ := Format.single_parts finite
  unfold Format.exact
  rw [parts]
  change Format.double.exact _ = (significand : ℚ) * 2 ^ ((scale : Int) - 149)
  by_cases zero : significand = 0
  · subst zero
    rw [Format.roundMagnitude, if_pos rfl, Format.exact_zero, Nat.cast_zero, zero_mul]
  have most : significand.log2 < 24 := (Nat.log2_lt zero).mpr bound
  obtain ⟨shift, filled⟩ : ∃ shift, significand.log2 + shift = 52 :=
    ⟨52 - significand.log2, by omega⟩
  have exponent : ((scale + 925 - shift : Nat) : Int) - 1074 + shift = (scale : Int) - 149 := by
    omega
  rw [Format.double_roundMagnitude zero filled small, exact_double_filled zero filled, exponent]

/-- That a value of sixty-four bits is the same as one of thirty-two. -/
structure Widens (wide : Double) (x : Single) : Prop where
  isNaN_eq : wide.isNaN = x.isNaN
  isFinite_eq : wide.isFinite = x.isFinite
  isNegative_eq : wide.isNegative = x.isNegative
  exact_eq : x.isFinite = true → wide.exact = x.exact

/-- **A value of thirty-two bits is a value of sixty-four.** -/
theorem convert_double_widens (x : Single) : (x.convert .double).Widens x := by
  cases x with
  | nan => exact ⟨rfl, rfl, rfl, nofun⟩
  | signed negative magnitude bounded =>
      by_cases finite : magnitude < Format.single.infinity
      · obtain ⟨wide, widens, below, _⟩ := Format.roundMagnitude_double_single finite
        have stands := exact_double_of_single finite
        rw [widens] at stands
        rw [convert_of_finite .double negative finite widens (Nat.le_of_lt below)]
        refine ⟨rfl, (decide_eq_true below).trans (decide_eq_true finite).symm, rfl, fun _ => ?_⟩
        rw [exact_signed, exact_signed, stands]
      · obtain rfl : magnitude = Format.single.infinity :=
          Nat.le_antisymm bounded (Nat.le_of_not_lt finite)
        have infinite : (Floating.signed negative Format.single.infinity bounded).convert .double =
            .infinite .double negative := convert_infinite .single .double negative
        rw [infinite]
        refine ⟨rfl, rfl, rfl, fun inside => ?_⟩
        have below : Format.single.infinity < Format.single.infinity := of_decide_eq_true inside
        exact absurd below finite

end Floating

end RecallChat
