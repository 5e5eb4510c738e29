import RecallChat.Proofs.Engine.Contract

/-!
# Columns of hidden states

Hidden states are rows, one for each position.  Their mean is computed row by row, and yet each of
its components is the mean of one column (`Tensor.Fits.meanPool_eq`): columns do not mix, and there
are as many components as columns.
-/

set_option autoImplicit false

namespace RecallChat

/-- The mean of a column: its sum from the top, starting at zero, divided by its length. -/
def columnMean (column : List Single) : Single :=
  (column.foldl Floating.add (Floating.zero .single)).div (Floating.ofInt .single column.length)

/-- An element of a tensor as a value of thirty-two bits, by its place in reading order. -/
def Tensor.entry (tensor : Tensor) (place : Nat) : Single :=
  tensor.elements.toSingles.toList.getD place (Floating.zero .single)

/-- A column of a tensor with rows of a width, one row for each of some positions. -/
def Tensor.column (tensor : Tensor) (length width index : Nat) : List Single :=
  (List.range length).map fun position => tensor.entry (position * width + index)

/-- A stretch of a list by its indices. -/
theorem take_drop_eq_map_range {α : Type} {values : List α} {start width : Nat}
    (room : start + width ≤ values.length) (other : α) :
    (values.drop start).take width =
      (List.range width).map fun index => values.getD (start + index) other := by
  refine List.ext_getElem ?_ fun index _ _ => ?_
  · rw [List.length_take, List.length_drop, List.length_map, List.length_range]
    omega
  · rw [List.getElem_take, List.getElem_drop, List.getElem_map, List.getElem_range]
    exact List.getElem_eq_getD other

/-- Adding rows one after the other adds up every column on its own. -/
theorem foldl_zipWith_columns {α : Type} (add : α → α → α) (entry : Nat → Nat → α)
    (positions indices : List Nat) (sum : Nat → α) :
    (positions.map fun position => indices.map (entry position)).foldl
        (fun sum row => List.zipWith add sum row) (indices.map sum) =
      indices.map fun index =>
        (positions.map fun position => entry position index).foldl add (sum index) := by
  induction positions generalizing sum with
  | nil => rfl
  | cons position rest ih =>
      have added : List.zipWith add (indices.map sum) (indices.map (entry position)) =
          indices.map fun index => add (sum index) (entry position index) := by
        rw [List.zipWith_map, List.zipWith_self]
      rw [List.map_cons, List.foldl_cons, added, ih]
      rfl

/-- **A component of the mean is the mean of its column.** -/
theorem Tensor.Fits.meanPool_eq {tensor : Tensor} {length width : Nat}
    (fits : tensor.Fits length width) (nonempty : 0 < length) :
    meanPool tensor length =
      (List.range width).map fun index => columnMean (tensor.column length width index) := by
  have rows : rowsOf tensor.elements.toSingles.toList width length =
      (List.range length).map fun position =>
        (List.range width).map fun index => tensor.entry (position * width + index) := by
    rw [rowsOf_eq]
    refine List.map_congr_left fun position inside => take_drop_eq_map_range ?_ _
    rw [Array.length_toList, fits.size_eq, ← Nat.succ_mul]
    exact Nat.mul_le_mul_right width (List.mem_range.mp inside)
  have first : ((List.range length).map fun position =>
      (List.range width).map fun index => tensor.entry (position * width + index)).head?.getD [] =
        (List.range width).map fun index => tensor.entry index := by
    obtain ⟨count, rfl⟩ := Nat.exists_eq_succ_of_ne_zero nonempty.ne'
    simp [List.range_succ_eq_map]
  unfold meanPool meanRows sumRows
  rw [fits.shape_eq]
  dsimp only [List.getLast?, List.getLast, Option.getD_some]
  rw [rows, first, List.map_map, foldl_zipWith_columns, List.map_map, List.length_map,
    List.length_range]
  refine List.map_congr_left fun index _ => ?_
  simp only [Function.comp_apply, columnMean, column, List.length_map, List.length_range]

end RecallChat
