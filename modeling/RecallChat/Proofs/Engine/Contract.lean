import Mathlib.Algebra.BigOperators.Group.List.Defs
import Mathlib.Algebra.Group.Nat.Defs
import RecallChat.Embedding
import RecallChat.Generation
import RecallChat.Proofs.Decoding.Choice
import RecallChat.Proofs.Ending
import RecallChat.Proofs.Outcome

/-!
# The contract of a graph

A graph may give arrays of any rank and shape.  `requireOutput` accepts one of shape one by the
number of tokens by at least one and refuses all others with one of the library's own faults
(`requireOutput_ends`); what is accepted has all its elements where the shape says (`Tensor.Fits`).

Three operations on an accepted tensor could go wrong: taking the row of its last position, choosing
from that row, and taking the mean of its rows.  Beside them stand forms that are guarded, which end
with a fault where the tensor has no such row, the row is empty, or there are no rows to divide by
the number of.  On a tensor accepted for at least one token the guards never show
(`Fits.guardedChoice_eq`, `Fits.guardedMean_eq`).
-/

set_option autoImplicit false

namespace RecallChat

/-- That a fault is one of the library's own. -/
def Fault.Own (fault : Fault) : Prop := fault.isOwn = true

/-! ## Arrays -/

/-- What holds of every array of numbers: it has as many elements as its shape says, and no size
beyond sixty-three bits. -/
structure Tensor.Proper (tensor : Tensor) : Prop where
  size_eq : tensor.elements.size = tensor.shape.prod
  sizes_lt : ∀ size ∈ tensor.shape, size < 2 ^ 63
  numeric : ∀ values, tensor.elements ≠ .mixed values

/-- That a tensor has shape one by a number of positions by a positive width, and its elements. -/
structure Tensor.Fits (tensor : Tensor) (length width : Nat) : Prop where
  shape_eq : tensor.shape = [1, length, width]
  size_eq : tensor.elements.toSingles.size = length * width
  positive : 0 < width
  width_lt : width < 2 ^ 63

theorem Elements.size_toSingles (elements : Elements) :
    elements.toSingles.size = elements.size := by
  cases elements with
  | half values => exact Array.size_map
  | single values => rfl
  | double values => exact Array.size_map
  | integer isSigned bits values => exact Array.size_map
  | boolean values => exact Array.size_map
  | mixed values => exact Array.size_map

/-- A proper tensor of the right shape fits, also when it is read as values of thirty-two bits. -/
theorem Tensor.Proper.fits {tensor : Tensor} (proper : tensor.Proper) {length width : Nat}
    (shape_eq : tensor.shape = [1, length, width]) (positive : width ≠ 0) :
    (Tensor.ofSingles tensor.shape tensor.elements.toSingles).Fits length width := by
  constructor
  case shape_eq => exact shape_eq
  case size_eq =>
    have counted := proper.size_eq
    rw [shape_eq] at counted
    change tensor.elements.toSingles.size = length * width
    rw [Elements.size_toSingles, counted]
    simp
  case positive => exact Nat.pos_of_ne_zero positive
  case width_lt =>
    apply proper.sizes_lt
    rw [shape_eq]
    simp

/-- **An output is accepted only if it fits the tokens**, and refused with one of the library's own
faults. -/
theorem requireOutput_ends {outputs : NamedTensors} (proper : ∀ output ∈ outputs, output.2.Proper)
    (name : String) (length : Nat) :
    Outcome.Ends (fun tensor => ∃ width, tensor.Fits length width) Fault.Own
      (requireOutput outputs name length) := by
  unfold requireOutput
  split
  case h_1 => rfl
  case h_2 given tensor found =>
    have accepted := proper _ (List.mem_of_find?_eq_some found)
    dsimp only
    split
    case h_2 => rfl
    case h_1 batch positions width shape_eq =>
      split
      case isFalse => rfl
      case isTrue right =>
        obtain ⟨rfl, positions_eq, positive⟩ := right
        obtain rfl := Int.ofNat_inj.mp positions_eq
        exact ⟨width, accepted.fits shape_eq positive⟩

/-! ## Rows -/

/-- The row of a tensor of three dimensions at two indices, refused where one of them is out of
bounds. -/
def Tensor.rowAt (tensor : Tensor) (block position : Nat) : Except Fault (List Single) :=
  match tensor.shape with
  | [blocks, positions, width] =>
    let first := (block * positions + position) * width
    if block < blocks ∧ position < positions ∧ first + width ≤ tensor.elements.toSingles.size then
      .ok (tensor.elements.toSingles.extract first (first + width)).toList
    else .error (.outside .indexOut "index out of bounds")
  | _ => .error (.outside .indexOut "too many indices")

/-- The greedy choice from a row, which must not be empty. -/
def guardedChoice (row : List Single) : Except Fault Int :=
  if row.isEmpty then .error (.wrongValue "no token in an empty row") else .ok (greedyToken row)

/-- The mean of the rows of a tensor's first block, of which there must be one. -/
def Tensor.guardedMean (tensor : Tensor) (length : Nat) : Except Fault Vector32 := do
  let rows ← (List.range length).mapM (tensor.rowAt 0)
  if rows.isEmpty then throw (.outside .divisionByZero "mean of no rows")
  return meanRows rows

/-- The rows of a list of values lie one after the other. -/
theorem rowsOf_eq (values : List Single) (width count : Nat) :
    rowsOf values width count =
      (List.range count).map fun position => (values.drop (position * width)).take width := by
  induction count generalizing values with
  | zero => rfl
  | succ count ih =>
      rw [rowsOf, ih, List.range_succ_eq_map, List.map_cons, List.map_map, Nat.zero_mul,
        List.drop_zero]
      congr 1
      refine List.map_congr_left fun position _ => ?_
      rw [List.drop_drop, Function.comp_apply, Nat.succ_mul, Nat.add_comm]

namespace Tensor.Fits

variable {tensor : Tensor} {length width : Nat}

theorem rowAt_eq (fits : tensor.Fits length width) {position : Nat} (inside : position < length) :
    tensor.rowAt 0 position =
      .ok ((tensor.elements.toSingles.toList.drop (position * width)).take width) := by
  have room : (0 * length + position) * width + width ≤ tensor.elements.toSingles.size := by
    rw [fits.size_eq, Nat.zero_mul, Nat.zero_add, ← Nat.succ_mul]
    exact Nat.mul_le_mul_right width inside
  unfold rowAt
  rw [fits.shape_eq]
  dsimp only
  rw [if_pos ⟨Nat.one_pos, inside, room⟩, Array.toList_extract, List.extract_eq_take_drop,
    Nat.zero_mul, Nat.zero_add, Nat.add_sub_cancel_left]

/-- The row of the last position. -/
theorem rowAt_last (fits : tensor.Fits length width) (nonempty : 0 < length) :
    tensor.rowAt 0 (length - 1) = .ok (lastRow tensor length) := by
  have last : length - 1 < length := Nat.sub_lt nonempty Nat.one_pos
  have width_eq : length * width - (length - 1) * width = width := by
    rw [← Nat.sub_mul, Nat.sub_sub_self nonempty, Nat.one_mul]
  rw [fits.rowAt_eq last, lastRow, fits.shape_eq, Array.toList_extract, List.extract_eq_take_drop]
  dsimp only [List.getLast?, List.getLast, Option.getD_some]
  rw [width_eq]

theorem length_lastRow (fits : tensor.Fits length width) (nonempty : 0 < length) :
    (lastRow tensor length).length = width := by
  have last := fits.rowAt_last nonempty
  rw [fits.rowAt_eq (Nat.sub_lt nonempty Nat.one_pos)] at last
  have enough : (length - 1) * width + width = length * width := by
    rw [← Nat.succ_mul, Nat.succ_eq_add_one, Nat.sub_add_cancel nonempty]
  rw [← Except.ok.inj last, List.length_take, List.length_drop, Array.length_toList, fits.size_eq]
  omega

/-- **The row of the last position is there and is not empty.** -/
theorem guardedChoice_eq (fits : tensor.Fits length width) (nonempty : 0 < length) :
    (tensor.rowAt 0 (length - 1) >>= guardedChoice) = .ok (greedyToken (lastRow tensor length)) := by
  have filled : (lastRow tensor length).isEmpty = false := by
    rw [List.isEmpty_eq_false_iff, ← List.length_pos_iff, fits.length_lastRow nonempty]
    exact fits.positive
  rw [fits.rowAt_last nonempty]
  change guardedChoice _ = _
  rw [guardedChoice, filled]
  rfl

/-- **The rows are there, and their number is not zero.** -/
theorem guardedMean_eq (fits : tensor.Fits length width) (nonempty : 0 < length) :
    tensor.guardedMean length = .ok (meanPool tensor length) := by
  have rows : (List.range length).mapM (tensor.rowAt 0) =
      .ok (rowsOf tensor.elements.toSingles.toList width length) := by
    rw [rowsOf_eq]
    exact Outcome.mapM_eq_ok fun position member => fits.rowAt_eq (List.mem_range.mp member)
  have filled : (rowsOf tensor.elements.toSingles.toList width length).isEmpty = false := by
    cases length with
    | zero => cases nonempty
    | succ length => rfl
  rw [guardedMean, rows, meanPool, fits.shape_eq]
  change (if _ = true then _ else _) = _
  rw [filled]
  rfl

end Tensor.Fits

end RecallChat
