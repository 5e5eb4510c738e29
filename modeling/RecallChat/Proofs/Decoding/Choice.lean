import Mathlib.Data.List.Induction
import Mathlib.Order.Bounds.Basic
import RecallChat.Generation.Greedy
import RecallChat.Proofs.Outcome

/-!
# The greedy choice

The greedy choice masks the NaNs of a row and takes the first position of the greatest value.  Here
it is compared with a scan of the row as it stands: the scan starts at position zero with minus
infinity and moves on to a position only if its value is a number strictly above the best one so far
(`scan`).  Both end at the least position whose value is not below any other, where a NaN counts as
minus infinity (`maxima`), so they are the same (`greedyToken_eq_scan`).

What the choice depends on is therefore the rank of each value only (`Floating.rank`): the two zeros
share a rank, and so do a NaN and minus infinity.
-/

set_option autoImplicit false

namespace RecallChat

/-! ## Ranks -/

/-- Minus infinity. -/
abbrev lowest : Single := Floating.infinite .single true

namespace Floating

/-- The place of a value on the line of all values, where a NaN stands with minus infinity. -/
def rank (value : Single) : Int := (masked value).place

theorem rank_of_number {value : Single} (number : value.isNaN = false) :
    value.rank = value.place := by
  rw [rank, masked, number]
  rfl

theorem lowest_le_place {value : Single} (number : value.isNaN = false) :
    lowest.place ≤ value.place := by
  cases value with
  | nan => cases number
  | signed negative magnitude bounded =>
      change -((Format.single.infinity : Nat) : Int) ≤ if negative then _ else _
      split <;> omega

theorem lowest_le_rank (value : Single) : lowest.place ≤ value.rank :=
  lowest_le_place (isNaN_masked value)

/-- Only a NaN and minus infinity have the lowest rank. -/
theorem rank_eq_lowest_iff (value : Single) :
    value.rank = lowest.place ↔ value = .nan ∨ value = lowest := by
  constructor
  · intro least
    cases value with
    | nan => exact .inl rfl
    | signed negative magnitude bounded =>
        have least : (if negative then -(magnitude : Int) else magnitude) =
            -((Format.single.infinity : Nat) : Int) := least
        have positive : 0 < Format.single.infinity := by decide
        cases negative with
        | false => simp only [Bool.false_eq_true, if_false] at least; omega
        | true =>
            obtain rfl : magnitude = Format.single.infinity := by
              simp only [if_true] at least
              omega
            exact .inr rfl
  · rintro (rfl | rfl) <;> rfl

end Floating

open Floating

/-- The positions of a row whose value is not below any other. -/
def maxima (row : List Single) : Set Nat :=
  { position | ∃ value, row[position]? = some value ∧ ∀ other ∈ row, other.rank ≤ value.rank }

/-- Which positions these are depends on the ranks only. -/
theorem maxima_congr {row other : List Single} (same : row.map rank = other.map rank) :
    maxima row = maxima other := by
  have by_ranks (row : List Single) : maxima row =
      { position | ∃ height, (row.map rank)[position]? = some height ∧
        ∀ height' ∈ row.map rank, height' ≤ height } := by
    ext position
    simp [maxima, List.getElem?_map]
  rw [by_ranks, by_ranks, same]

/-! ## The first maximum -/

section FirstMaximum

variable {row : List Single}

theorem exceeds_iff {value other : Single} (left : value.isNaN = false)
    (right : other.isNaN = false) : exceeds value other = true ↔ other.place < value.place := by
  rw [exceeds, left, Bool.false_and, Bool.or_false, less_iff right left]

/-- The greatest value of numbers is a number, has the place of one of them, and no other has a
higher one. -/
theorem isGreatest_greatest (row : List Single) (numbers : ∀ value ∈ row, value.isNaN = false) :
    (greatest row).isNaN = false ∧ (∀ value ∈ row, value.place ≤ (greatest row).place) ∧
      (row ≠ [] → ∃ value ∈ row, value.place = (greatest row).place) := by
  induction row using List.reverseRecOn with
  | nil => exact ⟨rfl, nofun, fun nonempty => absurd rfl nonempty⟩
  | append_singleton row last ih =>
      obtain ⟨number, upper, reached⟩ :=
        ih fun value member => numbers value (List.mem_append_left _ member)
      have isNumber := numbers last (List.mem_append_right _ (List.mem_singleton_self last))
      have step : greatest (row ++ [last]) =
          if exceeds last (greatest row) then last else greatest row := by
        rw [greatest, List.foldl_append]
        rfl
      rw [step]
      by_cases above : exceeds last (greatest row) = true
      · rw [if_pos above]
        have higher := (exceeds_iff isNumber number).mp above
        refine ⟨isNumber, fun value member => ?_, fun _ => ⟨last, by simp, rfl⟩⟩
        rcases List.mem_append.mp member with earlier | new
        · exact (upper value earlier).trans higher.le
        · exact (congrArg place (List.mem_singleton.mp new)).le
      · rw [if_neg above]
        have notHigher := not_lt.mp (mt (exceeds_iff isNumber number).mpr above)
        refine ⟨number, fun value member => ?_, fun _ => ?_⟩
        · rcases List.mem_append.mp member with earlier | new
          · exact upper value earlier
          · exact (congrArg place (List.mem_singleton.mp new)).trans_le notHigher
        · cases row with
          | nil => exact ⟨last, by simp, le_antisymm notHigher (lowest_le_place isNumber)⟩
          | cons first rest =>
              obtain ⟨value, member, same⟩ := reached (List.cons_ne_nil first rest)
              exact ⟨value, List.mem_append_left _ member, same⟩

/-- The greedy choice is the least position whose value is not below any other. -/
theorem isLeast_greedyToken (nonempty : row ≠ []) : IsLeast (maxima row) (greedyToken row) := by
  have numbers : ∀ value ∈ row.map masked, value.isNaN = false := by
    intro value member
    obtain ⟨source, _, rfl⟩ := List.mem_map.mp member
    exact isNaN_masked source
  obtain ⟨number, upper, reached⟩ := isGreatest_greatest _ numbers
  have top_iff (value : Single) : (!exceeds (greatest (row.map masked)) (masked value)) = true ↔
      (greatest (row.map masked)).place ≤ value.rank := by
    rw [Bool.not_eq_true', ← Bool.not_eq_true, exceeds_iff number (isNaN_masked value), not_lt]
    rfl
  have chosen : greedyToken row =
      row.findIdx fun value => !exceeds (greatest (row.map masked)) (masked value) :=
    List.findIdx_map ..
  have upper' : ∀ value ∈ row, value.rank ≤ (greatest (row.map masked)).place :=
    fun value member => upper _ (List.mem_map_of_mem member)
  rw [chosen]
  constructor
  · have exists_top : ∃ value ∈ row,
        (!exceeds (greatest (row.map masked)) (masked value)) = true := by
      obtain ⟨_, among, same⟩ := reached (mt List.map_eq_nil_iff.mp nonempty)
      obtain ⟨value, member, rfl⟩ := List.mem_map.mp among
      exact ⟨value, member, (top_iff value).mpr same.ge⟩
    have inside := List.findIdx_lt_length_of_exists exists_top
    refine ⟨_, List.getElem?_eq_getElem inside, fun other member => ?_⟩
    exact (upper' other member).trans ((top_iff _).mp (List.findIdx_getElem (w := inside)))
  · rintro position ⟨value, at_position, highest⟩
    obtain ⟨_, among, same⟩ := reached (mt List.map_eq_nil_iff.mp nonempty)
    obtain ⟨other, member, rfl⟩ := List.mem_map.mp among
    refine not_lt.mp fun earlier => ?_
    have passed := List.not_of_lt_findIdx earlier
    obtain ⟨inside, rfl⟩ := List.getElem?_eq_some_iff.mp at_position
    exact Bool.false_ne_true <| passed.symm.trans <|
      (top_iff _).mpr (same.ge.trans (highest other member))

end FirstMaximum

/-- The greedy choice from a row that is not empty is one of its positions. -/
theorem greedyToken_lt {row : List Single} (nonempty : 0 < row.length) :
    greedyToken row < row.length := by
  obtain ⟨_, found, _⟩ := (isLeast_greedyToken (List.length_pos_iff.mp nonempty)).1
  exact (List.getElem?_eq_some_iff.mp found).1

/-! ## The scan -/

/-- One step of a scan: from the best position so far and its value to the position at hand, if the
value there is a number above the best one. -/
def scanStep (best : Nat × Single) (candidate : Single × Nat) : Nat × Single :=
  if candidate.1.isNaN = false ∧ best.2.less candidate.1 = true then (candidate.2, candidate.1)
  else best

/-- A scan of a row from the left, beginning at position zero with minus infinity. -/
def scan (row : List Single) : Nat × Single := row.zipIdx.foldl scanStep (0, lowest)

/-- What a scan has found of the values that it has passed: the first position of the highest one,
or the position with which it began if none was above minus infinity. -/
structure Leads (row : List Single) (best : Nat × Single) : Prop where
  number : best.2.isNaN = false
  upper : ∀ value ∈ row, value.rank ≤ best.2.place
  earlier : ∀ position < best.1, ∀ value, row[position]? = some value →
    value.rank < best.2.place
  reached : row[best.1]? = some best.2 ∨ best = (0, lowest)

namespace Leads

variable {row : List Single} {best : Nat × Single}

/-- One step keeps what a scan has found. -/
theorem step (leads : Leads row best) (last : Single) :
    Leads (row ++ [last]) (scanStep best (last, row.length)) := by
  unfold scanStep
  split
  case isTrue moves =>
    obtain ⟨isNumber, above⟩ := moves
    have higher := (less_iff leads.number isNumber).mp above
    constructor
    case number => exact isNumber
    case upper =>
      intro value member
      rcases List.mem_append.mp member with before | new
      · exact (leads.upper value before).trans higher.le
      · rw [List.mem_singleton.mp new, rank_of_number isNumber]
    case earlier =>
      intro position before value found
      rw [List.getElem?_append_left before] at found
      exact (leads.upper value (List.mem_of_getElem? found)).trans_lt higher
    case reached => exact .inl List.getElem?_concat_length
  case isFalse stays =>
    constructor
    case number => exact leads.number
    case upper =>
      intro value member
      rcases List.mem_append.mp member with before | new
      · exact leads.upper value before
      · rw [List.mem_singleton.mp new]
        cases isNaN : last.isNaN with
        | true =>
            have least : last.rank = lowest.place := by
              rw [rank, masked, isNaN]
              rfl
            exact least.trans_le (lowest_le_place leads.number)
        | false =>
            rw [rank_of_number isNaN]
            exact not_lt.mp fun above =>
              stays ⟨isNaN, (less_iff leads.number isNaN).mpr above⟩
    case earlier =>
      intro position before value found
      rcases leads.reached with at_best | rfl
      · have inside := (List.getElem?_eq_some_iff.mp at_best).1
        rw [List.getElem?_append_left (before.trans inside)] at found
        exact leads.earlier position before value found
      · exact absurd before (Nat.not_lt_zero position)
    case reached =>
      refine leads.reached.imp_left fun at_best => ?_
      rw [List.getElem?_append_left (List.getElem?_eq_some_iff.mp at_best).1]
      exact at_best

/-- A scan of a whole row has found what leads it. -/
theorem scan (row : List Single) : Leads row (scan row) := by
  induction row using List.reverseRecOn with
  | nil => exact ⟨rfl, nofun, nofun, .inr rfl⟩
  | append_singleton row last ih =>
      have last_step : RecallChat.scan (row ++ [last]) =
          scanStep (RecallChat.scan row) (last, row.length) := by
        rw [RecallChat.scan, List.zipIdx_append, List.foldl_append, Nat.zero_add]
        rfl
      rw [last_step]
      exact ih.step last

/-- What leads a row that is not empty is its first maximum. -/
theorem isLeast (leads : Leads row best) (nonempty : row ≠ []) : IsLeast (maxima row) best.1 := by
  rcases leads.reached with at_best | rfl
  · have own := rank_of_number leads.number
    refine ⟨⟨best.2, at_best, fun other member => own ▸ leads.upper other member⟩, ?_⟩
    rintro position ⟨value, found, highest⟩
    refine not_lt.mp fun before => ?_
    have higher := highest best.2 (List.mem_of_getElem? at_best)
    exact absurd (leads.earlier position before value found) (not_lt.mpr (own ▸ higher))
  · refine ⟨?_, fun position _ => Nat.zero_le position⟩
    obtain ⟨first, rest, rfl⟩ := List.exists_cons_of_ne_nil nonempty
    exact ⟨first, rfl, fun other member => (leads.upper other member).trans (lowest_le_rank first)⟩

end Leads

/-- **The greedy choice is where the scan ends.** -/
theorem greedyToken_eq_scan {row : List Single} (nonempty : row ≠ []) :
    greedyToken row = (scan row).1 :=
  (isLeast_greedyToken nonempty).unique ((Leads.scan row).isLeast nonempty)

/-! ## What the choice does not see -/

/-- Two values between which the choice makes no difference: the same, two zeros, or minus infinity
in the place of a NaN. -/
inductive Interchangeable : Single → Single → Prop
  | same (value : Single) : Interchangeable value value
  | zeros {value other : Single} (left : value.isZero = true) (right : other.isZero = true) :
      Interchangeable value other
  | masked : Interchangeable .nan lowest

theorem Interchangeable.rank_eq {value other : Single} (alike : Interchangeable value other) :
    value.rank = other.rank := by
  have rank_zero {zero : Single} (isZero : zero.isZero = true) : zero.rank = 0 := by
    cases zero with
    | nan => cases isZero
    | signed negative magnitude bounded =>
        obtain rfl : magnitude = 0 := beq_iff_eq.mp isZero
        cases negative <;> rfl
  cases alike with
  | same => rfl
  | zeros left right => rw [rank_zero left, rank_zero right]
  | masked => rfl

/-- Rows of the same ranks give the same choice. -/
theorem greedyToken_congr {row other : List Single} (nonempty : row ≠ [])
    (same : row.map rank = other.map rank) : greedyToken other = greedyToken row := by
  have filled : other ≠ [] := by
    rintro rfl
    exact nonempty (List.map_eq_nil_iff.mp same)
  refine (isLeast_greedyToken filled).unique ?_
  rw [← maxima_congr same]
  exact isLeast_greedyToken nonempty

/-- More values that are not above all others leave the choice as it is. -/
theorem greedyToken_append {row more : List Single} (nonempty : row ≠ [])
    (below : ∀ value ∈ more, ∃ other ∈ row, value.rank ≤ other.rank) :
    greedyToken (row ++ more) = greedyToken row := by
  have inside := greedyToken_lt (List.length_pos_iff.mpr nonempty)
  obtain ⟨⟨value, found, highest⟩, least⟩ := isLeast_greedyToken nonempty
  refine (isLeast_greedyToken (List.append_ne_nil_of_left_ne_nil nonempty more)).unique ⟨?_, ?_⟩
  · refine ⟨value, (List.getElem?_append_left inside).trans found, fun other member => ?_⟩
    rcases List.mem_append.mp member with here | new
    · exact highest other here
    · obtain ⟨above, here, le⟩ := below other new
      exact le.trans (highest above here)
  · rintro position ⟨other, found', highest'⟩
    refine not_lt.mp fun before => ?_
    rw [List.getElem?_append_left (before.trans inside)] at found'
    have maximal : position ∈ maxima row :=
      ⟨other, found', fun value member => highest' value (List.mem_append_left _ member)⟩
    exact absurd (least maximal) (not_le.mpr before)

/-! ## The choice from a row of numbers -/

/-- Numbers that round to a row are read as this row. -/
theorem greedyTokenOfValue_list {items : List Value} {row : List Single}
    (rounded : items.mapM Value.toSingle = .ok row) (nonempty : row ≠ []) :
    greedyTokenOfValue (.list items) = .ok (greedyToken row) := by
  have flat : ∀ item ∈ items, item.isLeaf = true := by
    intro item member
    obtain ⟨single, converted⟩ := Outcome.exists_of_mapM_eq_ok rounded member
    exact Value.isLeaf_of_toSingle converted
  obtain ⟨first, rest, rfl⟩ := List.exists_cons_of_ne_nil nonempty
  unfold greedyTokenOfValue
  rw [Value.shape_list_of_flat flat, Value.leaves_list_of_flat flat, rounded]
  rfl

/-- **The greedy choice is a scan for a strictly greater value.**  From numbers that round to a row
the position is chosen at which a scan ends that moves on only to a number strictly above the best
one so far.  It is the least position whose value is not below any other, and always one of the row.
A NaN is chosen only from a row without a number above minus infinity, which gives position zero.
Neither values of the same rank nor more values that are not above all others change the choice. -/
theorem choice_scans {items : List Value} {row : List Single}
    (rounded : items.mapM Value.toSingle = .ok row) (nonempty : row ≠ []) :
    greedyTokenOfValue (.list items) = .ok (greedyToken row) ∧
      greedyToken row = (scan row).1 ∧
      IsLeast (maxima row) (greedyToken row) ∧
      greedyToken row < row.length ∧
      ((∀ value ∈ row, value = .nan ∨ value = lowest) → greedyToken row = 0) ∧
      (row[greedyToken row]? = some .nan → ∀ value ∈ row, value = .nan ∨ value = lowest) ∧
      (∀ other, List.Forall₂ Interchangeable row other → greedyToken other = greedyToken row) ∧
      ∀ more, (∀ value ∈ more, ∃ other ∈ row, value.rank ≤ other.rank) →
        greedyToken (row ++ more) = greedyToken row := by
  have least := isLeast_greedyToken nonempty
  refine ⟨greedyTokenOfValue_list rounded nonempty, greedyToken_eq_scan nonempty, least,
    greedyToken_lt (List.length_pos_iff.mpr nonempty), fun bottom => ?_,
    fun chosen value member => ?_, fun other alike => ?_,
    fun more below => greedyToken_append nonempty below⟩
  · obtain ⟨first, rest, rfl⟩ := List.exists_cons_of_ne_nil nonempty
    refine Nat.le_zero.mp (least.2 ⟨first, rfl, fun other member => ?_⟩)
    rw [(rank_eq_lowest_iff other).mpr (bottom other member)]
    exact lowest_le_rank first
  · obtain ⟨best, found, highest⟩ := least.1
    cases chosen.symm.trans found
    exact (rank_eq_lowest_iff value).mp (le_antisymm (highest value member) (lowest_le_rank value))
  · have ranks : List.Forall₂ (· = ·) (row.map rank) (other.map rank) :=
      List.forall₂_map_left_iff.mpr (List.forall₂_map_right_iff.mpr
        (alike.imp fun _ _ => Interchangeable.rank_eq))
    rw [List.forall₂_eq_eq_eq] at ranks
    exact greedyToken_congr nonempty ranks

/-- Two integers that round to the same value, behind a NaN and minus infinity. -/
def crowdedRow : List Value :=
  [.real .nan, .real (.infinite .double true), .integer (2 ^ 24), .integer (2 ^ 24 + 1), .integer 0]

/-- The values that the numbers round to. -/
def crowdedValues : List Single :=
  [.nan, lowest, .ofInt .single (2 ^ 24), .ofInt .single (2 ^ 24), .zero .single]

theorem crowded_rounds : crowdedRow.mapM Value.toSingle = .ok crowdedValues := by
  have values : (crowdedRow.mapM Value.toSingle).toOption = some crowdedValues := by decide +kernel
  cases outcome : crowdedRow.mapM Value.toSingle with
  | error fault =>
      rw [outcome] at values
      cases values
  | ok row =>
      rw [outcome] at values
      exact congrArg Except.ok (Option.some.inj values)

/-- The first of the two is chosen. -/
theorem crowded_chosen :
    crowdedRow.mapM Value.toSingle = .ok crowdedValues ∧ crowdedValues ≠ [] ∧
      greedyTokenOfValue (.list crowdedRow) = .ok 2 ∧ (scan crowdedValues).1 = 2 := by
  have nonempty : crowdedValues ≠ [] := List.cons_ne_nil _ _
  obtain ⟨chosen, scanned, _⟩ := choice_scans crowded_rounds nonempty
  have second : greedyToken crowdedValues = 2 := by decide +kernel
  exact ⟨crowded_rounds, nonempty, second ▸ chosen, second ▸ scanned.symm⟩

end RecallChat
