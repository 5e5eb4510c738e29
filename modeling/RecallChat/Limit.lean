import RecallChat.Fault
import RecallChat.Value

/-!
# Limits

A configured limit on a number of steps or of results.  Any value can be configured, so a limit is a
whole number, a fractional one, or a value that is no number at all.  Only a whole number can count
results; steps can also be compared with a fractional one.
-/

namespace RecallChat

set_option autoImplicit false

/-- A configured limit. -/
inductive Limit where
  | whole (count : Int)
  | fractional (bound : Double)
  | unusable (kind : String)

namespace Limit

/-- The limit that a configured value is. -/
def ofValue (value : Value) : Limit :=
  match value.number? with
  | some (.integer n) => .whole n
  | some (.real x) => .fractional x
  | none => .unusable value.kindName

/-- The fault of comparing a value that is no number. -/
def incomparable (kind : String) : Fault :=
  .wrongType ("no limit can be of kind " ++ kind)

/-- Whether a limit is zero or below. -/
def isNotPositive : Limit → Except Fault Bool
  | whole count => .ok (decide (count ≤ 0))
  | fractional bound => .ok (Number.atMost (.real bound) (.integer 0))
  | unusable kind => .error (incomparable kind)

/-- A limit as a number of results. -/
def asCount : Limit → Except Fault Int
  | whole count => .ok count
  | fractional _ =>
    .error (.wrongType "a fractional number counts no results")
  | unusable kind => .error (incomparable kind)

/-- Whether a number of steps is below a limit. -/
def allows (steps : Nat) : Limit → Except Fault Bool
  | whole count => .ok (decide ((steps : Int) < count))
  | fractional bound => .ok (Number.less (.integer steps) (.real bound))
  | unusable kind => .error (incomparable kind)

/-- A number of steps that a limit does not exceed; an infinite limit gets a number that no run
reaches. -/
def steps : Limit → Nat
  | whole count => count.toNat
  | fractional bound =>
    match bound.truncate? with
    | some floor => (floor + 1).toNat
    | none => 2 ^ 64
  | unusable _ => 0

end Limit

end RecallChat
