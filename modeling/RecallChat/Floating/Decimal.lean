import RecallChat.Floating.Format
import RecallChat.Text.Blank
import RecallChat.Text.Digit

/-!
# Decimal text of floating point values

Three rules tie values to decimal text.  `shortest` writes the fewest digits that read back as the
same value, of those the nearest to it, positionally for exponents from -4 to 15 and with a signed
exponent of at least two digits otherwise.  `fixedTwo` writes two places, an exact half going to the
even neighbour.  `ofDecimal` reads `digits * 10 ^ power` to the nearest value, ties to even, and
`read?` reads the usual written forms, with blanks around them and single underscores between
digits.
-/

namespace RecallChat.Floating

set_option autoImplicit false

/-! ## Reading -/

/-- The value nearest to a signed `significand * 10 ^ power`.  Powers beyond the range of sixty-four
bits are settled without computing them. -/
def ofDecimal (format : Format) (negative : Bool) (significand : Nat) (power : Int) :
    Floating format :=
  let size : Int := (significand.log2 * 30103 / 100000 : Nat)
  if significand = 0 then round format negative 0 0
  else if 400 < size + power then infinite format negative
  else if size + power < -400 then round format negative 0 0
  else if 0 ≤ power then round format negative (significand * 10 ^ power.toNat) 0
  else roundQuotient format negative significand (10 ^ (-power).toNat) 0

/-- Digits with single underscores between them, read from the front, and what follows them. -/
def spanDigits : List Char → List Nat × List Char
  | [] => ([], [])
  | c :: rest =>
    match Text.digitValue? c with
    | some value => let (values, left) := spanDigits rest; (value :: values, left)
    | none =>
      match c, rest with
      | '_', d :: _ =>
        if (Text.digitValue? d).isSome then
          let (values, left) := spanDigits rest
          (values, left)
        else ([], c :: rest)
      | _, _ => ([], c :: rest)

/-- A run of digits that starts with a digit, and what follows it. -/
def digitRun (cs : List Char) : List Nat × List Char :=
  match cs with
  | c :: _ => if (Text.digitValue? c).isSome then spanDigits cs else ([], cs)
  | [] => ([], [])

/-- A sign, and what follows it. -/
def takeSign : List Char → Bool × List Char
  | '-' :: rest => (true, rest)
  | '+' :: rest => (false, rest)
  | cs => (false, cs)

/-- The power that an exponent part names; the part must reach the end of the text. -/
def exponentPart? : List Char → Option Int
  | [] => some 0
  | c :: rest =>
    if c = 'e' ∨ c = 'E' then
      let (negative, unsigned) := takeSign rest
      match digitRun unsigned with
      | (d :: ds, []) =>
        let power : Int := Text.digitsValue (d :: ds)
        some (if negative then -power else power)
      | _ => none
    else none

/-- A number without sign, as a function of the sign. -/
def readUnsigned? (format : Format) (negative : Bool) (cs : List Char) : Option (Floating format) :=
  let word := String.ofList (cs.map Char.toLower)
  if word = "inf" ∨ word = "infinity" then some (infinite format negative)
  else if word = "nan" then some .nan
  else
    let (whole, rest) := digitRun cs
    let (fraction, left) :=
      match rest with
      | '.' :: more => digitRun more
      | _ => ([], rest)
    if whole.isEmpty && fraction.isEmpty then none
    else
      (exponentPart? left).map fun power =>
        ofDecimal format negative (Text.digitsValue (whole ++ fraction)) (power - fraction.length)

/-- The value that the characters of a written number denote. -/
def ofCharacters? (format : Format) (cs : List Char) : Option (Floating format) :=
  let (negative, unsigned) := takeSign (Text.trimNumber cs)
  readUnsigned? format negative unsigned

/-- The value that a written number denotes. -/
def read? (format : Format) (text : String) : Option (Floating format) :=
  ofCharacters? format text.toList

/-! ## The shortest text -/

/-- The bounds of the numbers that round to a magnitude, on a grid four times as fine as its own:
the lower bound, the magnitude and the upper bound, with the exponent of the grid. -/
def roundingBounds (format : Format) (magnitude : Nat) : (Nat × Nat × Nat) × Int :=
  let (significand, exponent) := format.parts magnitude
  let narrow := decide (significand = 2 ^ format.fractionBits ∧ format.minExponent < exponent)
  ((4 * significand - (if narrow then 1 else 2), 4 * significand, 4 * significand + 2),
    exponent - 2)

/-- Of the two neighbours of `value / step`, the nearer one that lies within the bounds; a tie goes
to the even one. -/
def nearestWithin? (low value high step : Nat) (closed : Bool) : Option Nat :=
  let below := value / step
  let inside (candidate : Nat) : Bool :=
    let point := candidate * step
    if closed then decide (low ≤ point ∧ point ≤ high) else decide (low < point ∧ point < high)
  let above := below + 1
  let gapBelow := value - below * step
  let gapAbove := above * step - value
  let preferAbove := gapAbove < gapBelow ∨ (gapAbove = gapBelow ∧ below % 2 = 1)
  match inside below, inside above with
  | true, true => some (if preferAbove then above else below)
  | true, false => some below
  | false, true => some above
  | false, false => none

/-- The number of decimal digits of a natural. -/
def digitCount (n : Nat) : Nat := (Nat.toDigits 10 n).length

/-- The digits of the shortest decimal that reads back, with the power of ten of the last digit.
The search starts at one digit and tries one more each time. -/
def shortestSearch (low value high denominator : Nat) (closed : Bool) (top : Int) :
    Nat → Nat → Nat × Int
  | 0, digits => (value / denominator, top - digits)
  | fuel + 1, digits =>
    let power : Int := top - digits
    let (scale, step) :=
      if 0 ≤ power then (1, denominator * 10 ^ power.toNat) else (10 ^ (-power).toNat, denominator)
    match nearestWithin? (low * scale) (value * scale) (high * scale) step closed with
    | some found => (found, power)
    | none => shortestSearch low value high denominator closed top fuel (digits + 1)

/-- The shortest decimal `digits * 10 ^ power` that reads back as a positive finite magnitude. -/
def shortestDecimal (format : Format) (magnitude : Nat) : Nat × Int :=
  let ((low, value, high), exponent) := roundingBounds format magnitude
  let closed := decide ((format.parts magnitude).1 % 2 = 0)
  let up := 2 ^ exponent.toNat
  let denominator := 2 ^ (-exponent).toNat
  let top : Int :=
    if denominator ≤ value * up then digitCount (value * up / denominator)
    else 1 - (digitCount (denominator / (value * up)) : Int)
  shortestSearch (low * up) (value * up) (high * up) denominator closed top 20 1

/-- The digits of a natural without trailing zeros, and how many were dropped. -/
def strippedDigits (n : Nat) : List Char × Nat :=
  let reversed := (Nat.toDigits 10 n).reverse
  let kept := (reversed.dropWhile (· == '0')).reverse
  (kept, reversed.length - kept.length)

/-- Which decimal exponents are written positionally, and how many digits an exponent has at
least. -/
structure DecimalStyle where
  leastPositional : Int
  greatestPositional : Int
  exponentDigits : Nat

/-- Numbers from `0.0001` up to below `1e16` are positional; exponents have two digits. -/
def plainStyle : DecimalStyle := ⟨-4, 15, 2⟩

/-- Significant digits, the first of them at the given decimal exponent, as text. -/
def layDigits (style : DecimalStyle) (digits : List Char) (exponent : Int) : List Char :=
  if style.leastPositional ≤ exponent ∧ exponent ≤ style.greatestPositional then
    if exponent < 0 then
      '0' :: '.' :: List.replicate ((-exponent).toNat - 1) '0' ++ digits
    else
      let whole := digits.take (exponent.toNat + 1)
      let fraction := digits.drop (exponent.toNat + 1)
      whole ++ List.replicate (exponent.toNat + 1 - whole.length) '0' ++ '.' ::
        (if fraction.isEmpty then ['0'] else fraction)
  else
    let places := Nat.toDigits 10 exponent.natAbs
    let fraction := digits.drop 1
    digits.take 1 ++ (if fraction.isEmpty then [] else '.' :: fraction) ++ 'e' ::
      (if exponent < 0 then '-' else '+') ::
      List.replicate (style.exponentDigits - places.length) '0' ++ places

/-- The shortest text that reads back as the value. -/
def shortest {format : Format} : Floating format → String
  | .nan => "nan"
  | .signed negative magnitude _ =>
    let unsigned :=
      if magnitude = format.infinity then ['i', 'n', 'f']
      else if magnitude = 0 then ['0', '.', '0']
      else
        let (number, power) := shortestDecimal format magnitude
        let (digits, dropped) := strippedDigits number
        layDigits plainStyle digits (power + dropped + digits.length - 1)
    String.ofList (if negative then '-' :: unsigned else unsigned)

/-! ## Two fixed places -/

/-- A value with two decimal places, an exact half going to the even neighbour. -/
def fixedTwo {format : Format} : Floating format → String
  | .nan => "nan"
  | .signed negative magnitude _ =>
    let unsigned :=
      if magnitude = format.infinity then ['i', 'n', 'f']
      else
        let (significand, exponent) := format.parts magnitude
        let hundredths :=
          if 0 ≤ exponent then (significand * 100) <<< exponent.toNat
          else roundShift (significand * 100) (-exponent).toNat
        let cents := Nat.toDigits 10 (hundredths % 100)
        Nat.toDigits 10 (hundredths / 100) ++ '.' ::
          List.replicate (2 - cents.length) '0' ++ cents
    String.ofList (if negative then '-' :: unsigned else unsigned)

/-! ## Whole parts -/

/-- The whole part of a finite value, toward zero. -/
def truncate? {format : Format} : Floating format → Option Int
  | .nan => none
  | .signed negative magnitude _ =>
    if magnitude = format.infinity then none
    else
      let (significand, exponent) := format.parts magnitude
      let whole : Int :=
        if 0 ≤ exponent then (significand <<< exponent.toNat : Nat)
        else (significand >>> (-exponent).toNat : Nat)
      some (if negative then -whole else whole)

/-- Whether a finite value is a whole number. -/
def isWhole {format : Format} (value : Floating format) : Bool :=
  match truncate? value with
  | some whole => (ofInt format whole).same value
  | none => false

end RecallChat.Floating
