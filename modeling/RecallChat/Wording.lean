import RecallChat.Fault
import RecallChat.Nested

/-!
# Values in messages

The forms of a value that a message can quote.  An integer of too many digits cannot be written, and
neither can a value that holds one: to quote it is a fault of its own.
-/

namespace RecallChat.Value

set_option autoImplicit false

/-- The fault of writing an integer of too many digits. -/
def unwritable : Fault :=
  .wrongValue ("Exceeds the limit (" ++ toString Text.maxDigits ++ " digits) for integer string " ++
    "conversion; use sys.set_int_max_str_digits() to increase the limit")

/-- The plain form of a value, if it can be written. -/
def inWords (value : Value) : Except Fault String :=
  if value.isWritable then .ok value.display else .error unwritable

/-- The quoting form of a value, if it can be written. -/
def inQuotes (value : Value) : Except Fault String :=
  if value.isWritable then .ok value.shown else .error unwritable

theorem inQuotes_of_isWritable {value : Value} (writable : value.isWritable = true) :
    value.inQuotes = .ok value.shown :=
  if_pos writable

theorem inQuotes_of_not_isWritable {value : Value} (long : value.isWritable = false) :
    value.inQuotes = .error unwritable := by
  rw [inQuotes, long]
  rfl

/-! ## Lists of integers -/

/-- An integer of sixty-four bits has few enough digits. -/
theorem isWritable_word {n : Int} (fits : fitsWord n = true) : (integer n).isWritable = true := by
  have bounds := decide_eq_true_iff.mp fits
  have many : (2 ^ 63 : Nat) < 10 ^ Text.maxDigits :=
    Nat.lt_of_lt_of_le (by decide : (2 ^ 63 : Nat) < 10 ^ 20)
      (Nat.pow_le_pow_right (by decide) (by decide))
  rw [isWritable, decide_eq_true_iff]
  omega

theorem isWritable_words {ids : List Int} (fit : ∀ id ∈ ids, fitsWord id = true) :
    (list (ids.map integer)).isWritable = true := by
  rw [isWritable]
  induction ids with
  | nil => rfl
  | cons id rest ih =>
      obtain ⟨fits, fit⟩ := List.forall_mem_cons.mp fit
      rw [List.map_cons, allWritable, isWritable_word fits, ih fit]
      rfl

theorem inQuotes_words {ids : List Int} (fit : ∀ id ∈ ids, fitsWord id = true) :
    (list (ids.map integer)).inQuotes = .ok (list (ids.map integer)).shown :=
  inQuotes_of_isWritable (isWritable_words fit)

end RecallChat.Value
