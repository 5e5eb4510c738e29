import RecallChat.Path

/-!
# Components of paths

A path is written with one slash between its components, and its components are what is left of the
pieces between the slashes of a text.  Reading what was written gives the path again
(`Path.ofPoints_points`); this holds of every path that a text denotes (`Path.wellFormed_ofPoints`),
and joining two paths keeps it (`Path.WellFormed.join`).
-/

set_option autoImplicit false

namespace RecallChat

open RecallChat.Text

namespace Path

/-! ## Pieces -/

theorem isComponent_iff {piece : CodePoints} :
    isComponent piece = true ↔ piece ≠ [] ∧ piece ≠ [dot] := by
  simp [isComponent]

/-- Slashes and then a text that does not start with one are as many slashes of the root. -/
theorem rootSlashes_replicate_append {count : Nat} (few : count ≤ 2) {rest : CodePoints}
    (starts : rest.head? ≠ some slash) :
    rootSlashes (List.replicate count slash ++ rest) = count := by
  have none : rest.takeWhile (· == slash) = [] := by
    cases rest with
    | nil => rfl
    | cons first others =>
        have other : first ≠ slash := fun same => starts (congrArg some same)
        exact List.takeWhile_cons_of_neg (mt beq_iff_eq.mp other)
  have leading : ((List.replicate count slash ++ rest).takeWhile (· == slash)).length =
      count := by
    rw [List.takeWhile_append_of_pos (by simp), none, List.append_nil, List.length_replicate]
  rw [rootSlashes, leading]
  split <;> omega

/-- A text has a root when it starts with a slash. -/
theorem rootSlashes_eq_zero_iff {points : CodePoints} :
    rootSlashes points = 0 ↔ points.head? ≠ some slash := by
  constructor
  · intro none starts
    obtain ⟨rest, rfl⟩ := List.head?_eq_some_iff.mp starts
    rw [rootSlashes, List.takeWhile_cons, if_pos (beq_self_eq_true _), List.length_cons] at none
    split at none <;> omega
  · exact fun starts => rootSlashes_replicate_append (Nat.zero_le 2) starts

theorem rootSlashes_le_two (points : CodePoints) : rootSlashes points ≤ 2 := by
  rw [rootSlashes]
  split <;> omega

/-- A slash in front makes an empty piece in front. -/
theorem splitOn_replicate_append (count : Nat) (rest : CodePoints) :
    (List.replicate count slash ++ rest).splitOn slash =
      List.replicate count [] ++ rest.splitOn slash := by
  induction count with
  | zero => rfl
  | succ count ih =>
      rw [List.replicate_succ, List.cons_append, List.splitOn_cons_eq_if_modifyHead,
        if_pos (beq_self_eq_true _), ih]
      rfl

/-- No piece has a slash in it. -/
theorem slash_notMem {points piece : CodePoints} (member : piece ∈ points.splitOn slash) :
    slash ∉ piece := by
  induction points generalizing piece with
  | nil =>
      rw [List.splitOn_nil, List.mem_singleton] at member
      rw [member]
      exact List.not_mem_nil
  | cons point rest ih =>
      rw [List.splitOn_cons_eq_if_modifyHead] at member
      split at member
      next =>
        rcases List.mem_cons.mp member with rfl | later
        · exact List.not_mem_nil
        · exact ih later
      next other =>
        cases pieces : rest.splitOn slash with
        | nil => exact absurd pieces (List.splitOn_ne_nil _ _)
        | cons first others =>
            rw [pieces, List.modifyHead_cons] at member
            rcases List.mem_cons.mp member with rfl | later
            · intro inside
              rcases List.mem_cons.mp inside with same | inFirst
              · exact other (beq_iff_eq.mpr same.symm)
              · exact ih (pieces ▸ List.mem_cons_self) inFirst
            · exact ih (pieces ▸ List.mem_cons_of_mem _ later)

theorem mem_intercalate {pieces : List CodePoints} {piece : CodePoints} {point : Nat}
    (member : piece ∈ pieces) (inside : point ∈ piece) : point ∈ [slash].intercalate pieces := by
  induction pieces with
  | nil => cases member
  | cons first rest ih =>
      cases rest with
      | nil =>
          rw [List.intercalate_singleton, ← List.mem_singleton.mp member]
          exact inside
      | cons second others =>
          rw [List.intercalate_cons_cons, List.mem_append, List.mem_append]
          rcases List.mem_cons.mp member with rfl | later
          · exact .inl (.inl inside)
          · exact .inr (ih later)

/-- What is in a piece is in the text. -/
theorem mem_of_mem_splitOn {points piece : CodePoints} {point : Nat}
    (member : piece ∈ points.splitOn slash) (inside : point ∈ piece) : point ∈ points := by
  have whole := mem_intercalate member inside
  rwa [List.intercalate_splitOn] at whole

/-- Empty pieces are no components. -/
theorem filter_replicate_nil (count : Nat) :
    (List.replicate count []).filter isComponent = [] :=
  List.filter_eq_nil_iff.mpr fun piece member => by
    rw [(List.mem_replicate.mp member).2]
    exact Bool.false_ne_true

/-! ## Reading what was written -/

/-- Every path that a text denotes is well-formed. -/
theorem wellFormed_ofPoints (points : CodePoints) : (ofPoints points).WellFormed := by
  refine ⟨rootSlashes_le_two points, fun part member => ?_⟩
  obtain ⟨piece, component⟩ := List.mem_filter.mp member
  exact ⟨component, slash_notMem piece⟩

theorem WellFormed.join {base path : Path} (first : base.WellFormed) (second : path.WellFormed) :
    (base.join path).WellFormed := by
  rw [Path.join]
  split
  · exact second
  · refine ⟨first.1, fun part member => ?_⟩
    rcases List.mem_append.mp member with inBase | inPath
    · exact first.2 part inBase
    · exact second.2 part inPath

/-- A path below a base that is not replaced has the components of the base in front. -/
theorem join_of_relative {base path : Path} (relative : path.isAbsolute = false) :
    base.join path = ⟨base.slashes, base.parts ++ path.parts⟩ := by
  rw [join, relative]
  rfl

/-- A written component does not start with a slash. -/
theorem WellFormed.head?_intercalate {path : Path} (wellFormed : path.WellFormed) :
    ([slash].intercalate path.parts).head? ≠ some slash := by
  cases parts : path.parts with
  | nil => nofun
  | cons part others =>
      obtain ⟨component, free⟩ := wellFormed.2 part (parts ▸ List.mem_cons_self)
      cases part with
      | nil => cases component
      | cons point rest =>
          have first : ([slash].intercalate ((point :: rest) :: others)).head? = some point := by
            cases others with
            | nil => rw [List.intercalate_singleton]; rfl
            | cons other more => rw [List.intercalate_cons_cons]; rfl
          rw [first]
          exact fun same => free (Option.some.inj same ▸ List.mem_cons_self)

/-- **Reading a written path gives the path again.** -/
theorem ofPoints_points {path : Path} (wellFormed : path.WellFormed) :
    ofPoints path.points = path := by
  obtain ⟨few, components⟩ := id wellFormed
  obtain ⟨slashes, parts⟩ := path
  have kept : parts.filter isComponent = parts :=
    List.filter_eq_self.mpr fun part member => (components part member).1
  rw [points]
  split
  next empty =>
    obtain ⟨rfl, rfl⟩ := empty
    decide
  next =>
    rw [ofPoints, rootSlashes_replicate_append few wellFormed.head?_intercalate,
      splitOn_replicate_append, List.filter_append, filter_replicate_nil, List.nil_append]
    by_cases none : parts = []
    · subst none
      rfl
    · rw [List.splitOn_intercalate _ (fun part member => (components part member).2) none, kept]

end Path

end RecallChat
