import RecallChat.Floating.Decimal

/-!
# Numbers

A number is an integer of any size or a floating point value of sixty-four bits.  Numbers compare
by their exact values, also across the two kinds; a sum with a floating point part is rounded once,
and an integer beyond the floating point range cannot take part in one.
-/

namespace RecallChat

set_option autoImplicit false

/-- An integer of any size, or a value of sixty-four bits. -/
inductive Number where
  | integer (value : Int)
  | real (value : Double)
  deriving DecidableEq

namespace Number

/-- A finite floating point value as a signed significand with an exponent. -/
def exactParts : Double → Int × Int
  | .nan => (0, 0)
  | .signed negative magnitude _ =>
    let (significand, exponent) := Format.double.parts magnitude
    ((if negative then -(significand : Int) else significand), exponent)

/-- The order of an integer and a floating point value; there is none with a NaN. -/
def compareIntReal (n : Int) (x : Double) : Option Ordering :=
  match x with
  | .nan => none
  | .signed negative magnitude _ =>
    if magnitude = Format.double.infinity then some (if negative then .gt else .lt)
    else
      let (significand, exponent) := exactParts x
      if 0 ≤ exponent then some (compare n (significand * 2 ^ exponent.toNat))
      else some (compare (n * 2 ^ (-exponent).toNat) significand)

/-- The order of two numbers by exact value. -/
def compare? : Number → Number → Option Ordering
  | .integer a, .integer b => some (compare a b)
  | .integer a, .real b => compareIntReal a b
  | .real a, .integer b => (compareIntReal b a).map Ordering.swap
  | .real a, .real b =>
    if a.isNaN || b.isNaN then none else some (compare a.place b.place)

/-- Strictly below. -/
def less (a b : Number) : Bool := compare? a b == some .lt

/-- At most. -/
def atMost (a b : Number) : Bool := compare? a b == some .lt || compare? a b == some .eq

/-- Equal by exact value. -/
def same (a b : Number) : Bool := compare? a b == some .eq

/-- An integer as a value of sixty-four bits, unless it rounds beyond the finite range. -/
def realOfInt? (n : Int) : Option Double :=
  let rounded := Floating.ofInt .double n
  if rounded.isFinite then some rounded else none

/-- A number as a value of sixty-four bits. -/
def toReal? : Number → Option Double
  | .integer n => realOfInt? n
  | .real x => some x

/-- The sum of two numbers. -/
def add? : Number → Number → Option Number
  | .integer a, .integer b => some (.integer (a + b))
  | a, b => do return .real ((← a.toReal?).add (← b.toReal?))

/-- The written form of a number. -/
def shown : Number → String
  | .integer n => toString n
  | .real x => x.shortest

/-- Whether a number is zero. -/
def isZero : Number → Bool
  | .integer n => n == 0
  | .real x => x.isZero

end Number

end RecallChat
