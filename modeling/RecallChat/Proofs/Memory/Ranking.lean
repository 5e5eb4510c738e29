import Mathlib.Data.List.FinRange
import RecallChat.Proofs.Chat.Exchange
import RecallChat.Proofs.Floating.Products

/-!
# The ranking of a search

A search ranks the entries of a memory by their similarity to the query.  One entry outranks another
when it is more similar, or just as similar and older (`Memory.Outranks`).  There is one arrangement
of all entries in which each outranks those after it, and a search finds the beginning of it
(`search_finds`).

That there is such an arrangement rests on the similarities being finite, whatever the vectors hold:
a NaN would be neither above nor below nor equal to anything.  Entries whose vector has nothing to
compare have similarity zero and take part like all others (`cosine_of_incomparable`).
-/

set_option autoImplicit false

namespace RecallChat

/-! ## Stable sorting -/

/-- Sorting keeps the order of items that may stand before each other: where a list is in some
order, so are these items in the sorted list. -/
theorem pairwise_mergeSort_of_pairwise {α : Type} {le : α → α → Bool}
    (trans : ∀ a b c, le a b = true → le b c = true → le a c = true)
    (total : ∀ a b, (le a b || le b a) = true) {before : α → α → Prop} {items : List α}
    (ordered : items.Pairwise before) :
    (items.mergeSort le).Pairwise fun a b => le a b = true ∧ (le b a = true → before a b) := by
  -- the sort is the one that breaks ties by the places of the items
  have placed : ∀ first ∈ items.zipIdx, ∀ second ∈ items.zipIdx, first.2 < second.2 →
      before first.1 second.1 := by
    intro first at' second at'' earlier
    obtain ⟨inside, is⟩ := List.getElem?_eq_some_iff.mp (List.mk_mem_zipIdx_iff_getElem?.mp at')
    obtain ⟨inside', is'⟩ := List.getElem?_eq_some_iff.mp (List.mk_mem_zipIdx_iff_getElem?.mp at'')
    rw [← is, ← is']
    exact List.pairwise_iff_getElem.mp ordered _ _ inside inside' earlier
  have places : (items.zipIdx.mergeSort (List.zipIdxLE le)).Pairwise fun a b => a.2 ≠ b.2 := by
    refine List.pairwise_map.mp (((List.mergeSort_perm _ _).map Prod.snd).nodup_iff.mpr ?_)
    rw [List.zipIdx_map_snd]
    exact List.nodup_range'
  have sorted := List.pairwise_mergeSort (List.zipIdxLE_trans trans) (List.zipIdxLE_total total)
    items.zipIdx
  rw [← List.mergeSort_zipIdx]
  refine List.pairwise_map.mpr ((sorted.and places).imp_of_mem fun {first second} at' at'' both => ?_)
  obtain ⟨ranks, differ⟩ := both
  unfold List.zipIdxLE at ranks
  split at ranks
  case isFalse => cases ranks
  case isTrue forward =>
    refine ⟨forward, fun back => ?_⟩
    rw [if_pos back, decide_eq_true_iff] at ranks
    exact placed _ (List.mem_mergeSort.mp at') _ (List.mem_mergeSort.mp at'')
      (lt_of_le_of_ne ranks differ)

/-! ## Arithmetic of zeros -/

namespace Floating

theorem isZero_mul {x y : Single} (left : x.isZero = true) (right : y.isZero = true) :
    (x.mul y).isZero = true := by
  cases x with
  | nan => cases left
  | signed negative magnitude bounded =>
      cases y with
      | nan => cases right
      | signed negative' magnitude' bounded' =>
          obtain rfl : magnitude = 0 := beq_iff_eq.mp left
          obtain rfl : magnitude' = 0 := beq_iff_eq.mp right
          cases negative <;> cases negative' <;> rfl

theorem isZero_add {x y : Single} (left : x.isZero = true) (right : y.isZero = true) :
    (x.add y).isZero = true := by
  cases x with
  | nan => cases left
  | signed negative magnitude bounded =>
      cases y with
      | nan => cases right
      | signed negative' magnitude' bounded' =>
          obtain rfl : magnitude = 0 := beq_iff_eq.mp left
          obtain rfl : magnitude' = 0 := beq_iff_eq.mp right
          cases negative <;> cases negative' <;> rfl

theorem isZero_sqrt {x : Single} (zero : x.isZero = true) : x.sqrt.isZero = true := by
  cases x with
  | nan => cases zero
  | signed negative magnitude bounded =>
      obtain rfl : magnitude = 0 := beq_iff_eq.mp zero
      rfl

/-! ## The order of finite values -/

theorem isNaN_of_isFinite {format : Format} {x : Floating format} (finite : x.isFinite = true) :
    x.isNaN = false := by
  cases x with
  | nan => cases finite
  | signed negative magnitude bounded => rfl

end Floating

namespace Vector32

/-- The norm of a vector of zeros is zero. -/
theorem isZero_norm {a : Vector32} (zeros : ∀ x ∈ a, x.isZero = true) : a.norm.isZero = true := by
  have sums : ∀ (pairs : List (Single × Single)) (sum : Single), sum.isZero = true →
      (∀ pair ∈ pairs, pair.1.isZero = true ∧ pair.2.isZero = true) →
      (pairs.foldl (fun sum pair => sum.add (pair.1.mul pair.2)) sum).isZero = true := by
    intro pairs
    induction pairs with
    | nil => exact fun sum zero _ => zero
    | cons pair rest ih =>
        intro sum zero both
        have product := Floating.isZero_mul (both pair List.mem_cons_self).1
          (both pair List.mem_cons_self).2
        exact ih _ (Floating.isZero_add zero product)
          fun other later => both other (List.mem_cons_of_mem pair later)
  refine Floating.isZero_sqrt (sums (a.zip a) _ rfl fun pair member => ?_)
  obtain ⟨left, right⟩ := List.of_mem_zip (a := pair.1) (b := pair.2) member
  exact ⟨zeros _ left, zeros _ right⟩

/-- That a vector has nothing to compare with another. -/
def Incomparable (a b : Vector32) : Prop :=
  a = [] ∨ (∀ x ∈ a, x.isZero = true) ∨ a.length ≠ b.length

/-- The similarity is zero where there is nothing to compare. -/
theorem cosine_of_incomparable {a b : Vector32} (incomparable : a.Incomparable b) :
    a.cosine b = Floating.zero .double := by
  unfold cosine
  rcases incomparable with empty | zeros | differ
  · rw [if_pos (.inr empty)]
  · dsimp only
    rw [isZero_norm zeros, Bool.true_or, if_pos rfl, ite_self]
  · rw [if_pos (.inl differ)]

end Vector32

namespace Memory

variable (memory : Memory) (query : Vector32)

/-! ## Arrangements of the entries -/

/-- The position of an entry. -/
abbrev Position : Type := Fin memory.entries.length

/-- The text of the entry at a position. -/
def textAt (position : memory.Position) : Value := (memory.entries.get position).text

/-- The similarity to a query of the entry at a position. -/
def scoreAt (position : memory.Position) : Double :=
  (memory.entries.get position).vector.cosine query

/-- What a search finds of the entry at a position. -/
def scored (position : memory.Position) : Value × Double :=
  (memory.textAt position, memory.scoreAt query position)

/-- That the entry at the first position is more similar to a query than the one at the second, or
just as similar and older. -/
def Outranks (first second : memory.Position) : Prop :=
  (memory.scoreAt query second).less (memory.scoreAt query first) = true ∨
    (memory.scoreAt query first).same (memory.scoreAt query second) = true ∧ first < second

instance (first second : memory.Position) : Decidable (memory.Outranks query first second) :=
  inferInstanceAs (Decidable (_ ∨ _))

/-- That positions are those of all entries, each outranking those after it. -/
structure Arranges (positions : List memory.Position) : Prop where
  all : positions.Perm (List.finRange memory.entries.length)
  ordered : positions.Pairwise (memory.Outranks query)

variable {memory query}

theorem isNaN_scoreAt (position : memory.Position) :
    (memory.scoreAt query position).isNaN = false :=
  Floating.isNaN_of_isFinite (Vector32.cosine_isFinite _ query)

theorem outranks_iff {first second : memory.Position} :
    memory.Outranks query first second ↔
      (memory.scoreAt query second).place < (memory.scoreAt query first).place ∨
        (memory.scoreAt query first).place = (memory.scoreAt query second).place ∧
          first < second := by
  unfold Outranks
  rw [Floating.less_iff (isNaN_scoreAt second) (isNaN_scoreAt first),
    Floating.same_iff (isNaN_scoreAt first) (isNaN_scoreAt second)]

/-- Of two entries at most one outranks the other. -/
theorem Outranks.asymm {first second : memory.Position}
    (outranks : memory.Outranks query first second) : ¬ memory.Outranks query second first := by
  rw [outranks_iff, Fin.lt_def] at outranks ⊢
  omega

/-- There is at most one arrangement. -/
theorem Arranges.unique {positions other : List memory.Position}
    (arranges : memory.Arranges query positions) (arranges' : memory.Arranges query other) :
    other = positions :=
  (arranges'.all.trans arranges.all.symm).eq_of_pairwise
    (fun _ _ _ _ before after => (before.asymm after).elim) arranges'.ordered arranges.ordered

/-! ## The arrangement of a search -/

/-- Whether the entry at the first position may be ranked before the one at the second. -/
def ranksAt (memory : Memory) (query : Vector32) (first second : memory.Position) : Bool :=
  ranksBefore (memory.scored query first) (memory.scored query second)

theorem ranksAt_iff {first second : memory.Position} :
    memory.ranksAt query first second = true ↔
      (memory.scoreAt query second).place ≤ (memory.scoreAt query first).place :=
  decide_eq_true_iff

theorem ranksAt_trans (first second third : memory.Position)
    (left : memory.ranksAt query first second = true)
    (right : memory.ranksAt query second third = true) :
    memory.ranksAt query first third = true :=
  ranksAt_iff.mpr ((ranksAt_iff.mp right).trans (ranksAt_iff.mp left))

theorem ranksAt_total (first second : memory.Position) :
    (memory.ranksAt query first second || memory.ranksAt query second first) = true := by
  rw [Bool.or_eq_true, ranksAt_iff, ranksAt_iff]
  exact le_total _ _

variable (memory query)

/-- The positions of all entries, ranked. -/
def arrangement : List memory.Position :=
  (List.finRange memory.entries.length).mergeSort (memory.ranksAt query)

theorem ranking_eq :
    memory.ranking query = (memory.arrangement query).map (memory.scored query) := by
  have entries : memory.scores query =
      (List.finRange memory.entries.length).map (memory.scored query) := by
    have positions := congrArg (List.map fun entry => (entry.text, entry.vector.cosine query))
      (List.map_get_finRange memory.entries)
    rw [List.map_map] at positions
    exact positions.symm
  unfold ranking arrangement
  rw [entries, List.map_mergeSort (s := ranksBefore)]
  exact fun _ _ _ _ => rfl

/-- Each entry of the arrangement outranks those after it. -/
theorem ordered_arrangement : (memory.arrangement query).Pairwise (memory.Outranks query) := by
  have older := pairwise_mergeSort_of_pairwise (@ranksAt_trans memory query) ranksAt_total
    (List.pairwise_lt_finRange memory.entries.length)
  refine older.imp fun {first second} ⟨ranks, ties⟩ => ?_
  rw [outranks_iff]
  rcases (ranksAt_iff.mp ranks).lt_or_eq with below | same
  · exact .inl below
  · exact .inr ⟨same.symm, ties (ranksAt_iff.mpr same.ge)⟩

theorem arranges_arrangement : memory.Arranges query (memory.arrangement query) :=
  ⟨List.mergeSort_perm _ _, memory.ordered_arrangement query⟩

/-! ## What a search finds -/

variable {memory query}

/-- Entries at the beginning of an arrangement outrank all others. -/
theorem Arranges.outranks_of_take {positions : List memory.Position}
    (arranges : memory.Arranges query positions) {count : Nat} {taken left : memory.Position}
    (found : taken ∈ positions.take count) (missed : left ∉ positions.take count) :
    memory.Outranks query taken left := by
  have ordered := arranges.ordered
  have present : left ∈ positions.take count ++ positions.drop count := by
    rw [List.take_append_drop]
    exact arranges.all.mem_iff.mpr (List.mem_finRange left)
  rw [← List.take_append_drop count positions] at ordered
  exact (List.pairwise_append.mp ordered).2.2 taken found left
    ((List.mem_append.mp present).resolve_left missed)

/-- What searches for a query find, whatever number of results is asked for. -/
structure Finds (memory : Memory) (query : Value) (vector : Vector32)
    (positions : List memory.Position) : Prop where
  search_eq : ∀ count : Int, memory.search query (.whole count) =
    .ok ((positions.take count.toNat).map (memory.scored vector))
  searchTexts_eq : ∀ count : Int, memory.searchTexts query (.whole count) =
    .ok ((positions.take count.toNat).map memory.textAt)
  once : ∀ count : Int, (positions.take count.toNat).Nodup
  best : ∀ count : Int, ∀ taken ∈ positions.take count.toNat,
    ∀ left ∉ positions.take count.toNat, memory.Outranks vector taken left
  grows : ∀ count : Int, positions.take count.toNat <+: positions.take (count + 1).toNat

/-- **A search finds the beginning of the only arrangement of the entries by their similarity**, as
much of it as is asked for.  All similarities are finite, none of them is the quotient by a zero,
and an entry that has nothing to compare has similarity zero. -/
theorem search_finds (memory : Memory) {query : Value} {vector : Vector32}
    (isVector : Vector32.ofValue query = .ok vector) :
    (∃ positions, memory.Arranges vector positions ∧
      (∀ other, memory.Arranges vector other → other = positions) ∧
      memory.Finds query vector positions) ∧
    (∀ position, (memory.scoreAt vector position).isFinite = true ∧
      (memory.entries.get position).vector.guardedCosine vector =
        .ok (memory.scoreAt vector position) ∧
      ((memory.entries.get position).vector.Incomparable vector →
        memory.scoreAt vector position = Floating.zero .double)) ∧
    ∀ x y : Single, x.isZero = false → y.isZero = false →
      ((x.convert .double).mul (y.convert .double)).isZero = false := by
  have arranges := memory.arranges_arrangement vector
  have searched : ∀ count : Int, memory.search query (.whole count) =
      .ok (((memory.arrangement vector).take count.toNat).map (memory.scored vector)) := by
    intro count
    rw [search_eq_top memory isVector, top, ranking_eq, List.map_take]
  refine ⟨⟨_, arranges, fun other arranges' => arranges.unique arranges', ?_⟩, ?_, ?_⟩
  · constructor
    case search_eq => exact searched
    case searchTexts_eq =>
      intro count
      rw [searchTexts, searched, Except.map, List.map_map]
      rfl
    case once =>
      intro count
      have distinct := arranges.all.nodup_iff.mpr (List.nodup_finRange _)
      exact distinct.sublist (List.take_sublist _ _)
    case best => exact fun count taken found left missed => arranges.outranks_of_take found missed
    case grows => exact fun count => List.take_prefix_take_left (by omega)
  · exact fun position => ⟨Vector32.cosine_isFinite _ _, Vector32.guardedCosine_eq _ _,
      Vector32.cosine_of_incomparable⟩
  · exact fun x y left right => Floating.isZero_mul_convert left right

/-- One, as a value of thirty-two bits. -/
def one : Single := Floating.ofInt .single 1

/-- Four entries: zeros, two of the same vector, and one that is no number. -/
def mixed : Memory :=
  ⟨[⟨.text "none", [Floating.zero .single]⟩, ⟨.text "first", [one]⟩, ⟨.text "nan", [.nan]⟩,
    ⟨.text "second", [one]⟩]⟩

/-- Their positions, ranked for the vector that two of them have. -/
def mixedOrder : List mixed.Position :=
  [⟨1, by decide⟩, ⟨3, by decide⟩, ⟨0, by decide⟩, ⟨2, by decide⟩]

/-- The more similar entries come first, those of equal similarity by age. -/
theorem mixed_finds :
    Vector32.ofValue (.list [.integer 1]) = .ok [one] ∧
      mixed.Arranges [one] mixedOrder ∧
      mixed.searchTexts (.list [.integer 1]) (.whole 3) =
        .ok [.text "first", .text "second", .text "none"] := by
  have isVector : Vector32.ofValue (.list [.integer 1]) = .ok [one] := rfl
  have arranges : mixed.Arranges [one] mixedOrder := by
    constructor
    case all => decide
    case ordered => decide
  obtain ⟨⟨positions, _, only, finds⟩, _⟩ := search_finds mixed isVector
  rw [← only _ arranges] at finds
  exact ⟨isVector, arranges, finds.searchTexts_eq 3⟩

end Memory

end RecallChat
