import RecallChat.Nested

/-!
# The greedy choice

The token with the highest value of a row.  A row's NaNs are read as minus infinity, and of several
highest values the first one is chosen; so a NaN never wins, and a row that holds nothing above minus
infinity gives token zero.
-/

namespace RecallChat

set_option autoImplicit false

/-- A value, with minus infinity for a NaN. -/
def masked (value : Single) : Single :=
  if value.isNaN then Floating.infinite .single true else value

theorem isNaN_masked (value : Single) : (masked value).isNaN = false := by
  cases value <;> rfl

/-- Whether a value goes before another in the search for a maximum, in which a NaN is greater than
every number. -/
def exceeds (value other : Single) : Bool := other.less value || (value.isNaN && !other.isNaN)

/-- The greatest value of a row. -/
def greatest (row : List Single) : Single :=
  row.foldl (fun top value => if exceeds value top then value else top)
    (Floating.infinite .single true)

/-- The first position at which a row has its greatest value. -/
def firstMaximum (row : List Single) : Nat :=
  let top := greatest row
  row.findIdx fun value => !exceeds top value

/-- The token with the highest value of a row. -/
def greedyToken (row : List Single) : Nat := firstMaximum (row.map masked)

/-- The token with the highest value of nested numbers read as one row, which must not be empty. -/
def greedyTokenOfValue (row : Value) : Except Fault Nat := do
  let _ ← row.shape
  match ← row.leaves.mapM Value.toSingle with
  | [] => throw (.wrongValue "no token in an empty row")
  | values => return greedyToken values

end RecallChat
