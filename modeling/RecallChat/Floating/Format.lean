import RecallChat.Power

/-!
# Binary floating point

Values of a binary interchange format, with one NaN.  Every other value is a sign and a magnitude:
the place of its absolute value in the ascending list of the format's non-negative values, zero
first and infinity last.  Magnitudes therefore compare as numbers do, and a value's bits are its
sign bit followed by its magnitude.  `roundMagnitude` rounds an exact `significand * 2 ^ exponent`
to the nearest value, ties to the even neighbour; all arithmetic is exact arithmetic followed by
one such rounding.
-/

namespace RecallChat

set_option autoImplicit false

/-- A binary format: the width of its fraction and of its exponent field. -/
structure Format where
  fractionBits : Nat
  exponentBits : Nat
  deriving DecidableEq, Repr

namespace Format

/-- Sixteen bits. -/
def half : Format := ⟨10, 5⟩

/-- Thirty-two bits. -/
def single : Format := ⟨23, 8⟩

/-- Sixty-four bits. -/
def double : Format := ⟨52, 11⟩

/-- The magnitude of infinity. -/
def infinity (format : Format) : Nat := (2 ^ format.exponentBits - 1) * 2 ^ format.fractionBits

/-- The exponent of the smallest positive value. -/
def minExponent (format : Format) : Int :=
  2 - (2 ^ (format.exponentBits - 1) : Nat) - format.fractionBits

end Format

/-- A shift to the right by `shift` bits, rounded to nearest, ties to even. -/
def roundShift (significand shift : Nat) : Nat :=
  let quotient := significand >>> shift
  let twice := 2 * (significand % 2 ^ shift)
  if 2 ^ shift < twice ∨ (twice = 2 ^ shift ∧ quotient % 2 = 1) then quotient + 1 else quotient

/-- The magnitude nearest to `significand * 2 ^ exponent`. -/
def Format.roundMagnitude (format : Format) (significand : Nat) (exponent : Int) : Nat :=
  if significand = 0 then 0
  else
    let fractionBits : Int := format.fractionBits
    let quantum := max (exponent + significand.log2 - fractionBits) format.minExponent
    let rounded :=
      if quantum ≤ exponent then significand <<< (exponent - quantum).toNat
      else roundShift significand (quantum - exponent).toNat
    min format.infinity ((quantum - format.minExponent).toNat <<< format.fractionBits + rounded)

theorem Format.roundMagnitude_le (format : Format) (significand : Nat) (exponent : Int) :
    format.roundMagnitude significand exponent ≤ format.infinity := by
  unfold Format.roundMagnitude
  split
  · exact Nat.zero_le _
  · exact Nat.min_le_left _ _

/-- The significand and the exponent of a finite magnitude. -/
def Format.parts (format : Format) (magnitude : Nat) : Nat × Int :=
  let field := magnitude >>> format.fractionBits
  let fraction := magnitude % 2 ^ format.fractionBits
  if field = 0 then (fraction, format.minExponent)
  else (fraction + 2 ^ format.fractionBits, format.minExponent + field - 1)

/-- A value of a binary format. -/
inductive Floating (format : Format) where
  | nan
  | signed (negative : Bool) (magnitude : Nat) (bounded : magnitude ≤ format.infinity)
  deriving DecidableEq

/-- A value of thirty-two bits. -/
abbrev Single := Floating .single

/-- A value of sixty-four bits. -/
abbrev Double := Floating .double

namespace Floating

variable {format : Format}

/-- The value nearest to a signed `significand * 2 ^ exponent`. -/
def round (format : Format) (negative : Bool) (significand : Nat) (exponent : Int) :
    Floating format :=
  .signed negative (format.roundMagnitude significand exponent)
    (format.roundMagnitude_le significand exponent)

/-- Positive zero. -/
def zero (format : Format) : Floating format := .signed false 0 (Nat.zero_le _)

/-- An infinity. -/
def infinite (format : Format) (negative : Bool) : Floating format :=
  .signed negative format.infinity (Nat.le_refl _)

instance : Inhabited (Floating format) := ⟨zero format⟩

/-- The value nearest to an integer. -/
def ofInt (format : Format) (n : Int) : Floating format := round format (decide (n < 0)) n.natAbs 0

/-- The bits of a value; a NaN shows its quiet form. -/
def bits : Floating format → Nat
  | .nan => format.infinity + 2 ^ (format.fractionBits - 1)
  | .signed negative magnitude _ =>
    (if negative then 2 ^ (format.fractionBits + format.exponentBits) else 0) + magnitude

/-- Whether a value is a NaN. -/
def isNaN : Floating format → Bool
  | .nan => true
  | .signed .. => false

/-- Whether a value is a number other than the infinities. -/
def isFinite : Floating format → Bool
  | .nan => false
  | .signed _ magnitude _ => decide (magnitude < format.infinity)

/-- Whether a value is one of the two zeros. -/
def isZero : Floating format → Bool
  | .nan => false
  | .signed _ magnitude _ => magnitude == 0

/-- The place of a value on the line of all values; the two zeros share place zero. -/
def place : Floating format → Int
  | .nan => 0
  | .signed negative magnitude _ => if negative then -(magnitude : Int) else magnitude

/-- Strictly below, as numbers; a NaN is comparable with nothing. -/
def less : Floating format → Floating format → Bool
  | .nan, _ => false
  | _, .nan => false
  | a, b => decide (a.place < b.place)

/-- Equal as numbers; a NaN is equal to nothing. -/
def same : Floating format → Floating format → Bool
  | .nan, _ => false
  | _, .nan => false
  | a, b => decide (a.place = b.place)

/-- Values that are no NaN compare as their places do. -/
theorem less_iff {x y : Floating format} (left : x.isNaN = false) (right : y.isNaN = false) :
    x.less y = true ↔ x.place < y.place := by
  cases x with
  | nan => cases left
  | signed negative magnitude bounded =>
      cases y with
      | nan => cases right
      | signed negative' magnitude' bounded' => exact decide_eq_true_iff

/-- Values that are no NaN are equal as their places are. -/
theorem same_iff {x y : Floating format} (left : x.isNaN = false) (right : y.isNaN = false) :
    x.same y = true ↔ x.place = y.place := by
  cases x with
  | nan => cases left
  | signed negative magnitude bounded =>
      cases y with
      | nan => cases right
      | signed negative' magnitude' bounded' => exact decide_eq_true_iff

/-- The value of the other sign. -/
def negate : Floating format → Floating format
  | .nan => .nan
  | .signed negative magnitude bounded => .signed (!negative) magnitude bounded

/-- The nearest value of another format. -/
def convert (target : Format) : Floating format → Floating target
  | .nan => .nan
  | .signed negative magnitude _ =>
    if magnitude < format.infinity then
      round target negative (format.parts magnitude).1 (format.parts magnitude).2
    else infinite target negative

/-! ## Arithmetic -/

/-- A signed integer `significand * 2 ^ exponent` brought to a smaller exponent. -/
def scaled (negative : Bool) (parts : Nat × Int) (exponent : Int) : Int :=
  let shifted : Int := (parts.1 <<< (parts.2 - exponent).toNat : Nat)
  if negative then -shifted else shifted

/-- The sum of two values. -/
def add : Floating format → Floating format → Floating format
  | .nan, _ => .nan
  | _, .nan => .nan
  | .signed n₁ m₁ b₁, .signed n₂ m₂ b₂ =>
    if m₁ = format.infinity then
      if m₂ = format.infinity ∧ n₁ ≠ n₂ then .nan else .signed n₁ m₁ b₁
    else if m₂ = format.infinity then .signed n₂ m₂ b₂
    else
      let left := format.parts m₁
      let right := format.parts m₂
      let exponent := min left.2 right.2
      let total := scaled n₁ left exponent + scaled n₂ right exponent
      if total = 0 then .signed (n₁ && n₂) 0 (Nat.zero_le _)
      else round format (decide (total < 0)) total.natAbs exponent

/-- The product of two values. -/
def mul : Floating format → Floating format → Floating format
  | .nan, _ => .nan
  | _, .nan => .nan
  | .signed n₁ m₁ _, .signed n₂ m₂ _ =>
    let negative := n₁ != n₂
    if m₁ = format.infinity ∨ m₂ = format.infinity then
      if m₁ = 0 ∨ m₂ = 0 then .nan else infinite format negative
    else
      let left := format.parts m₁
      let right := format.parts m₂
      round format negative (left.1 * right.1) (left.2 + right.2)

/-- A quotient of naturals with at least `precision` bits and a last bit that marks a remainder,
with its exponent. -/
def stickyQuotient (precision numerator denominator : Nat) : Nat × Int :=
  let shift := precision + denominator.log2 + 1 - numerator.log2
  let scaledNumerator := numerator <<< shift
  let quotient := scaledNumerator / denominator
  let sticky := if scaledNumerator % denominator = 0 then 0 else 1
  (2 * quotient + sticky, -(shift : Int) - 1)

/-- The value nearest to a signed quotient of naturals times a power of two. -/
def roundQuotient (format : Format) (negative : Bool) (numerator denominator : Nat)
    (exponent : Int) : Floating format :=
  let quotient := stickyQuotient (format.fractionBits + 3) numerator denominator
  round format negative quotient.1 (quotient.2 + exponent)

/-- The quotient of two values. -/
def div : Floating format → Floating format → Floating format
  | .nan, _ => .nan
  | _, .nan => .nan
  | .signed n₁ m₁ _, .signed n₂ m₂ _ =>
    let negative := n₁ != n₂
    if m₁ = format.infinity then
      if m₂ = format.infinity then .nan else infinite format negative
    else if m₂ = format.infinity then .signed negative 0 (Nat.zero_le _)
    else if m₂ = 0 then if m₁ = 0 then .nan else infinite format negative
    else
      let left := format.parts m₁
      let right := format.parts m₂
      roundQuotient format negative left.1 right.1 (left.2 - right.2)

/-- The integer square root, found bit by bit from above. -/
def rootBits (n : Nat) : Nat → Nat → Nat
  | 0, root => root
  | bit + 1, root =>
    let next := root + 2 ^ bit
    if next * next ≤ n then rootBits n bit next else rootBits n bit root

/-- The greatest natural whose square is at most the given one. -/
def integerRoot (n : Nat) : Nat := rootBits n (n.log2 / 2 + 1) 0

/-- The square root of a value; negative values have none. -/
def sqrt : Floating format → Floating format
  | .nan => .nan
  | .signed negative magnitude bounded =>
    if magnitude = 0 then .signed negative magnitude bounded
    else if negative then .nan
    else if magnitude = format.infinity then .signed negative magnitude bounded
    else
      let parts := format.parts magnitude
      let shift : Nat := 2 * format.fractionBits + 6 + (parts.2 % 2).toNat
      let radicand := parts.1 <<< shift
      let root := integerRoot radicand
      let sticky := if root * root = radicand then 0 else 1
      round format false (2 * root + sticky) ((parts.2 - shift) / 2 - 1)

end Floating

end RecallChat
