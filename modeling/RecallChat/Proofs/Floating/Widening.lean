import RecallChat.Floating.Format

/-!
# Widening

A value of thirty-two bits is a value of sixty-four bits, so going there and back changes nothing
(`convert_double_single`).  Widening shifts the significand until it fills the wider fraction, which
is exact; narrowing shifts the same places back, which drops zeros only.
-/

set_option autoImplicit false

namespace RecallChat

/-- Shifting back drops zeros only. -/
theorem roundShift_mul_pow (significand shift : Nat) :
    roundShift (significand * 2 ^ shift) shift = significand := by
  have positive : 0 < 2 ^ shift := Nat.two_pow_pos shift
  have quotient : (significand * 2 ^ shift) >>> shift = significand := by
    rw [Nat.shiftRight_eq_div_pow, Nat.mul_div_cancel _ positive]
  unfold roundShift
  rw [quotient, Nat.mul_mod_left]
  refine if_neg ?_
  rintro (below | ⟨tie, -⟩) <;> omega

theorem log2_mul_two_pow {significand : Nat} (ne : significand ≠ 0) (shift : Nat) :
    (significand * 2 ^ shift).log2 = significand.log2 + shift := by
  have positive : 0 < 2 ^ shift := Nat.two_pow_pos shift
  have ne' : significand * 2 ^ shift ≠ 0 := Nat.mul_ne_zero ne (Nat.ne_of_gt positive)
  rw [Nat.log2_eq_iff ne', Nat.pow_add, Nat.add_right_comm, Nat.pow_add]
  exact ⟨Nat.mul_le_mul_right _ (Nat.log2_self_le ne),
    Nat.mul_lt_mul_of_pos_right Nat.lt_log2_self positive⟩

namespace Format

/-! ## Rounding at a known quantum -/

section Quantum

variable (format : Format) {significand : Nat} {exponent quantum : Int}

theorem roundMagnitude_of_le (ne : significand ≠ 0)
    (quantum_eq : max (exponent + significand.log2 - format.fractionBits) format.minExponent =
      quantum) (exact : quantum ≤ exponent) :
    format.roundMagnitude significand exponent =
      min format.infinity ((quantum - format.minExponent).toNat * 2 ^ format.fractionBits +
        significand * 2 ^ (exponent - quantum).toNat) := by
  unfold roundMagnitude
  dsimp only
  rw [if_neg ne, quantum_eq, if_pos exact, Nat.shiftLeft_eq, Nat.shiftLeft_eq]

theorem roundMagnitude_of_lt (ne : significand ≠ 0)
    (quantum_eq : max (exponent + significand.log2 - format.fractionBits) format.minExponent =
      quantum) (rounds : exponent < quantum) :
    format.roundMagnitude significand exponent =
      min format.infinity ((quantum - format.minExponent).toNat * 2 ^ format.fractionBits +
        roundShift significand (quantum - exponent).toNat) := by
  unfold roundMagnitude
  dsimp only
  rw [if_neg ne, quantum_eq, if_neg (Int.not_le.mpr rounds), Nat.shiftLeft_eq]

end Quantum

/-! ## Parts of thirty-two bits -/

/-- The parts of a finite magnitude of thirty-two bits, and the magnitude made of them. -/
theorem single_parts {magnitude : Nat} (finite : magnitude < single.infinity) :
    ∃ significand scale : Nat, single.parts magnitude = (significand, (scale : Int) - 149) ∧
      significand < 2 ^ 24 ∧ scale ≤ 253 ∧ (scale = 0 ∨ 2 ^ 23 ≤ significand) ∧
      magnitude = scale * 2 ^ 23 + significand := by
  have fraction : magnitude % 2 ^ 23 < 2 ^ 23 := Nat.mod_lt _ (by decide)
  have whole := Nat.div_add_mod magnitude (2 ^ 23)
  have bound : magnitude < 255 * 2 ^ 23 := finite
  unfold parts
  change ∃ significand scale : Nat, (if magnitude >>> 23 = 0 then (magnitude % 2 ^ 23, (-149 : Int))
    else (magnitude % 2 ^ 23 + 2 ^ 23, -149 + ((magnitude >>> 23 : Nat) : Int) - 1)) = _ ∧ _
  rw [Nat.shiftRight_eq_div_pow]
  by_cases subnormal : magnitude / 2 ^ 23 = 0
  · rw [if_pos subnormal]
    exact ⟨magnitude % 2 ^ 23, 0, rfl, by omega, by omega, .inl rfl, by omega⟩
  · rw [if_neg subnormal]
    refine ⟨magnitude % 2 ^ 23 + 2 ^ 23, magnitude / 2 ^ 23 - 1, ?_, by omega, by omega,
      .inr (by omega), by omega⟩
    rw [Prod.mk.injEq]
    exact ⟨rfl, by omega⟩

/-! ## There and back -/

/-- A significand that fills the fraction of sixty-four bits comes back as it is. -/
theorem double_parts {field significand : Nat} (least : 2 ^ 52 ≤ significand)
    (most : significand < 2 ^ 53) :
    double.parts (field * 2 ^ 52 + significand) = (significand, (field : Int) - 1074) := by
  have quotient : (field * 2 ^ 52 + significand) / 2 ^ 52 = field + 1 := by omega
  have remainder : (field * 2 ^ 52 + significand) % 2 ^ 52 = significand - 2 ^ 52 := by omega
  unfold parts
  change (if (field * 2 ^ 52 + significand) >>> 52 = 0 then _ else
    ((field * 2 ^ 52 + significand) % 2 ^ 52 + 2 ^ 52,
      (-1074 : Int) + (((field * 2 ^ 52 + significand) >>> 52 : Nat) : Int) - 1)) = _
  rw [Nat.shiftRight_eq_div_pow, quotient, remainder, if_neg (Nat.succ_ne_zero field),
    Prod.mk.injEq]
  exact ⟨by omega, by omega⟩

/-- A significand of few bits is shifted until it fills the fraction of sixty-four. -/
theorem double_roundMagnitude {significand scale shift : Nat} (ne : significand ≠ 0)
    (filled : significand.log2 + shift = 52) (small : scale ≤ 253) :
    double.roundMagnitude significand ((scale : Int) - 149) =
      (scale + 925 - shift) * 2 ^ 52 + significand * 2 ^ shift := by
  have ne' : significand * 2 ^ shift ≠ 0 :=
    Nat.mul_ne_zero ne (Nat.ne_of_gt (Nat.two_pow_pos shift))
  have most : significand * 2 ^ shift < 2 ^ 53 := by
    rw [← Nat.log2_lt ne', log2_mul_two_pow ne shift, filled]
    decide
  have quantum_eq : max ((scale : Int) - 149 + significand.log2 - (52 : Nat)) (-1074) =
      (scale : Int) - 149 - shift := by omega
  have offset : ((scale : Int) - 149 - shift - -1074).toNat = scale + 925 - shift := by omega
  have back : ((scale : Int) - 149 - ((scale : Int) - 149 - shift)).toNat = shift := by omega
  rw [roundMagnitude_of_le double ne quantum_eq (by omega)]
  change min (2047 * 2 ^ 52) (((scale : Int) - 149 - shift - -1074).toNat * 2 ^ 52 +
    significand * 2 ^ ((scale : Int) - 149 - ((scale : Int) - 149 - shift)).toNat) = _
  rw [offset, back]
  omega

/-- A significand that was shifted to fill the wider fraction is shifted back. -/
theorem single_roundMagnitude {significand scale shift : Nat} (ne : significand ≠ 0)
    (filled : significand.log2 + shift = 52) (bound : significand < 2 ^ 24) (small : scale ≤ 253)
    (normal : scale = 0 ∨ 2 ^ 23 ≤ significand) :
    single.roundMagnitude (significand * 2 ^ shift) ((scale : Int) - 149 - shift) =
      scale * 2 ^ 23 + significand := by
  have ne' : significand * 2 ^ shift ≠ 0 :=
    Nat.mul_ne_zero ne (Nat.ne_of_gt (Nat.two_pow_pos shift))
  have bits : (significand * 2 ^ shift).log2 = 52 := (log2_mul_two_pow ne shift).trans filled
  have most : significand.log2 < 24 := (Nat.log2_lt ne).mpr bound
  have least : scale = 0 ∨ 23 ≤ significand.log2 :=
    normal.imp_right (Nat.le_log2 ne).mpr
  have quantum_eq : max ((scale : Int) - 149 - shift + (significand * 2 ^ shift).log2 -
      (23 : Nat)) (-149) = (scale : Int) - 149 := by
    rw [bits]
    omega
  have offset : ((scale : Int) - 149 - -149).toNat = scale := by omega
  have forth : ((scale : Int) - 149 - ((scale : Int) - 149 - shift)).toNat = shift := by omega
  rw [roundMagnitude_of_lt single ne' quantum_eq (by omega)]
  change min (255 * 2 ^ 23) (((scale : Int) - 149 - -149).toNat * 2 ^ 23 +
    roundShift (significand * 2 ^ shift)
      ((scale : Int) - 149 - ((scale : Int) - 149 - shift)).toNat) = _
  rw [offset, forth, roundShift_mul_pow]
  omega

/-- A finite magnitude of thirty-two bits other than zero fills the fraction of sixty-four, and is
what its wide significand is rounded to. -/
theorem exists_wide {magnitude : Nat} (finite : magnitude < single.infinity) (ne : magnitude ≠ 0) :
    ∃ field significand : Nat,
      double.roundMagnitude (single.parts magnitude).1 (single.parts magnitude).2 =
        field * 2 ^ 52 + significand ∧
      2 ^ 52 ≤ significand ∧ significand < 2 ^ 53 ∧ 873 ≤ field ∧ field ≤ 1178 ∧
      single.roundMagnitude significand ((field : Int) - 1074) = magnitude := by
  obtain ⟨significand, scale, parts, bound, small, normal, rfl⟩ := single_parts finite
  have nonzero : significand ≠ 0 := by
    rintro rfl
    exact ne (by rw [normal.resolve_right (by decide)])
  have most : significand.log2 < 24 := (Nat.log2_lt nonzero).mpr bound
  obtain ⟨shift, filled⟩ : ∃ shift, significand.log2 + shift = 52 :=
    ⟨52 - significand.log2, by omega⟩
  have ne' : significand * 2 ^ shift ≠ 0 :=
    Nat.mul_ne_zero nonzero (Nat.ne_of_gt (Nat.two_pow_pos shift))
  have bits : (significand * 2 ^ shift).log2 = 52 :=
    (log2_mul_two_pow nonzero shift).trans filled
  have scaled : ((scale + 925 - shift : Nat) : Int) - 1074 = (scale : Int) - 149 - shift := by
    omega
  refine ⟨scale + 925 - shift, significand * 2 ^ shift, ?_, ?_, ?_, by omega, by omega, ?_⟩
  · rw [parts]
    exact double_roundMagnitude nonzero filled small
  · exact (Nat.le_log2 ne').mp (Nat.le_of_eq bits.symm)
  · exact (Nat.log2_lt ne').mp (by omega)
  · rw [scaled]
    exact single_roundMagnitude nonzero filled bound small normal

theorem wide_lt_infinity {field significand : Nat} (small : field ≤ 1178)
    (most : significand < 2 ^ 53) : field * 2 ^ 52 + significand < double.infinity := by
  rw [show double.infinity = 2047 * 2 ^ 52 from rfl]
  omega

/-- A finite magnitude of thirty-two bits survives the way to sixty-four bits and back. -/
theorem roundMagnitude_double_single {magnitude : Nat} (finite : magnitude < single.infinity) :
    ∃ wide, double.roundMagnitude (single.parts magnitude).1 (single.parts magnitude).2 = wide ∧
      wide < double.infinity ∧
      single.roundMagnitude (double.parts wide).1 (double.parts wide).2 = magnitude := by
  by_cases zero : magnitude = 0
  · subst zero
    exact ⟨0, rfl, by decide, rfl⟩
  · obtain ⟨field, significand, widens, least, most, -, small, narrows⟩ :=
      exists_wide finite zero
    refine ⟨_, widens, wide_lt_infinity small most, ?_⟩
    rw [double_parts least most]
    exact narrows

end Format

namespace Floating

theorem convert_of_finite {format : Format} (target : Format) (negative : Bool) {magnitude : Nat}
    {bounded : magnitude ≤ format.infinity} (finite : magnitude < format.infinity) {rounded : Nat}
    (rounds : target.roundMagnitude (format.parts magnitude).1 (format.parts magnitude).2 =
      rounded) (bounded' : rounded ≤ target.infinity) :
    (signed negative magnitude bounded : Floating format).convert target =
      .signed negative rounded bounded' := by
  subst rounds
  exact if_pos finite

theorem convert_infinite (format target : Format) (negative : Bool) :
    (infinite format negative).convert target = infinite target negative :=
  if_neg (Nat.lt_irrefl _)

/-- **Going from thirty-two bits to sixty-four and back changes nothing.** -/
theorem convert_double_single (x : Single) : (x.convert .double).convert .single = x := by
  cases x with
  | nan => rfl
  | signed negative magnitude bounded =>
      by_cases finite : magnitude < Format.single.infinity
      · obtain ⟨wide, widens, below, narrows⟩ := Format.roundMagnitude_double_single finite
        rw [convert_of_finite .double negative finite widens (Nat.le_of_lt below),
          convert_of_finite .single negative below narrows bounded]
      · obtain rfl : magnitude = Format.single.infinity :=
          Nat.le_antisymm bounded (Nat.le_of_not_lt finite)
        exact (congrArg (convert .single) (convert_infinite .single .double negative)).trans
          (convert_infinite .double .single negative)

end Floating

end RecallChat
