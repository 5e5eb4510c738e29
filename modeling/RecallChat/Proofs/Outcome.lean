import RecallChat.Fault
import Mathlib.Data.List.Forall2

/-!
# Results of computations that may fail

A composed computation has a result when its first part has one and the rest has one on it
(`bind_eq_ok`).  Going through a list has a result when every item has one (`mapM_eq_ok_iff`,
`exists_of_mapM_eq_ok`, `mapM_eq_ok`, `exists_mapM_eq_ok`, `mapM_map_eq_ok`, `eq_map_of_mapM_eq_ok`,
`exists_map_of_mapM_eq_ok`), and otherwise the first item without one decides (`mapM_eq_error_iff`).
-/

set_option autoImplicit false

namespace RecallChat.Outcome

variable {ε α β : Type}

theorem bind_eq_ok {first : Except ε α} {next : α → Except ε β} {result : β} :
    first >>= next = .ok result ↔ ∃ value, first = .ok value ∧ next value = .ok result := by
  constructor
  · intro composed
    cases first with
    | error fault => cases composed
    | ok value => exact ⟨value, rfl, composed⟩
  · rintro ⟨value, rfl, rest⟩
    exact rest

theorem map_eq_ok {f : α → β} {outcome : Except ε α} {result : β} :
    outcome.map f = .ok result ↔ ∃ value, outcome = .ok value ∧ f value = result := by
  constructor
  · intro mapped
    cases outcome with
    | error fault => cases mapped
    | ok value => exact ⟨value, rfl, Except.ok.inj mapped⟩
  · rintro ⟨value, rfl, rfl⟩
    rfl

/-- A result that passes a test is there. -/
theorem exists_of_any {outcome : Except ε α} {test : α → Bool}
    (passes : outcome.toOption.any test = true) :
    ∃ value, outcome = .ok value ∧ test value = true := by
  cases outcome with
  | error fault => cases passes
  | ok value => exact ⟨value, rfl, passes⟩

/-- Checks that agree on every item agree on the list. -/
theorem forM_congr {f g : α → Except Fault Unit} {items : List α}
    (same : ∀ item ∈ items, f item = g item) : items.forM f = items.forM g := by
  induction items with
  | nil => rfl
  | cons item rest ih =>
      change (f item >>= fun _ => rest.forM f) = (g item >>= fun _ => rest.forM g)
      rw [same item List.mem_cons_self,
        ih fun other later => same other (List.mem_cons_of_mem item later)]

/-- A list has the results that its items have, one by one. -/
theorem mapM_eq_ok_iff {f : α → Except ε β} {items : List α} {values : List β} :
    items.mapM f = .ok values ↔
      List.Forall₂ (fun item value => f item = .ok value) items values := by
  induction items generalizing values with
  | nil =>
      constructor
      · intro results
        cases results
        exact .nil
      · intro results
        cases results
        rfl
  | cons item rest ih =>
      rw [List.mapM_cons]
      constructor
      · intro results
        obtain ⟨value, first, results⟩ := bind_eq_ok.mp results
        obtain ⟨others, later, results⟩ := bind_eq_ok.mp results
        cases results
        exact .cons first (ih.mp later)
      · intro results
        cases results with
        | cons first later =>
            exact bind_eq_ok.mpr ⟨_, first, bind_eq_ok.mpr ⟨_, ih.mpr later, rfl⟩⟩

/-- If a list has results, so has every item. -/
theorem exists_of_mapM_eq_ok {f : α → Except ε β} {items : List α} {values : List β}
    (results : items.mapM f = .ok values) {item : α} (member : item ∈ items) :
    ∃ value, f item = .ok value := by
  induction mapM_eq_ok_iff.mp results with
  | nil => cases member
  | cons first later ih =>
      rcases List.mem_cons.mp member with rfl | member
      · exact ⟨_, first⟩
      · exact ih (mapM_eq_ok_iff.mpr later) member

/-- The results of two lists one after the other are those of the first and then those of the
second. -/
theorem mapM_append_eq_ok {f : α → Except ε β} {items more : List α} {values : List β} :
    (items ++ more).mapM f = .ok values ↔ ∃ front back, values = front ++ back ∧
      items.mapM f = .ok front ∧ more.mapM f = .ok back := by
  rw [List.mapM_append]
  constructor
  · intro results
    obtain ⟨front, first, results⟩ := bind_eq_ok.mp results
    obtain ⟨back, second, results⟩ := bind_eq_ok.mp results
    cases results
    exact ⟨front, back, rfl, first, second⟩
  · rintro ⟨front, back, rfl, first, second⟩
    exact bind_eq_ok.mpr ⟨front, first, bind_eq_ok.mpr ⟨back, second, rfl⟩⟩

/-- Where the results of a list are split, so is the list. -/
theorem exists_append_of_mapM_eq_ok {f : α → Except ε β} {items : List α} {front back : List β}
    (results : items.mapM f = .ok (front ++ back)) : ∃ first second, items = first ++ second ∧
      first.mapM f = .ok front ∧ second.mapM f = .ok back := by
  have each := mapM_eq_ok_iff.mp results
  exact ⟨items.take front.length, items.drop front.length, (List.take_append_drop _ _).symm,
    mapM_eq_ok_iff.mpr (List.forall₂_take_append _ _ _ each),
    mapM_eq_ok_iff.mpr (List.forall₂_drop_append _ _ _ each)⟩

/-- A list fails with the fault of the first of its items that has no result. -/
theorem mapM_eq_error_iff {f : α → Except ε β} {items : List α} {fault : ε} :
    items.mapM f = .error fault ↔ ∃ before item rest, items = before ++ item :: rest ∧
      (∀ other ∈ before, ∃ value, f other = .ok value) ∧ f item = .error fault := by
  induction items with
  | nil =>
      constructor
      · intro failed
        cases failed
      · rintro ⟨before, item, rest, split, _, _⟩
        simp at split
  | cons first others ih =>
      rw [List.mapM_cons]
      constructor
      · intro failed
        cases result : f first with
        | error reason =>
            rw [result] at failed
            cases failed
            exact ⟨[], first, others, rfl, nofun, result⟩
        | ok value =>
            rw [result] at failed
            cases later : others.mapM f with
            | ok values =>
                have whole : (Except.ok (value :: values) : Except ε (List β)) = .error fault := by
                  rw [later] at failed
                  exact failed
                cases whole
            | error reason =>
                have same : reason = fault := by
                  rw [later] at failed
                  exact Except.error.inj failed
                subst same
                obtain ⟨before, item, rest, rfl, fine, refused⟩ := ih.mp later
                exact ⟨first :: before, item, rest, rfl,
                  List.forall_mem_cons.mpr ⟨⟨value, result⟩, fine⟩, refused⟩
      · rintro ⟨before, item, rest, split, fine, refused⟩
        cases before with
        | nil =>
            cases split
            rw [refused]
            rfl
        | cons other before =>
            cases split
            obtain ⟨⟨value, result⟩, fine⟩ := List.forall_mem_cons.mp fine
            rw [result, ih.mpr ⟨before, item, rest, rfl, fine, refused⟩]
            rfl

/-- If every item has a result, so has the list. -/
theorem mapM_eq_ok {f : α → Except Fault β} {g : α → β} {items : List α}
    (each : ∀ item ∈ items, f item = .ok (g item)) : items.mapM f = .ok (items.map g) := by
  induction items with
  | nil => rfl
  | cons item rest ih =>
      rw [List.mapM_cons, each item List.mem_cons_self,
        ih fun other member => each other (List.mem_cons_of_mem item member)]
      rfl

/-- If every item can be read from what was written of it, so can the list. -/
theorem mapM_map_eq_ok {γ : Type} {write : α → γ} {read : γ → Except Fault β} {g : α → β}
    {items : List α} (each : ∀ item ∈ items, read (write item) = .ok (g item)) :
    (items.map write).mapM read = .ok (items.map g) := by
  rw [List.mapM_map]
  exact mapM_eq_ok each

/-- If every item has some result, so has the list. -/
theorem exists_mapM_eq_ok {f : α → Except Fault β} {items : List α}
    (each : ∀ item ∈ items, ∃ value, f item = .ok value) :
    ∃ values, items.mapM f = .ok values ∧ values.length = items.length := by
  induction items with
  | nil => exact ⟨[], rfl, rfl⟩
  | cons item rest ih =>
      obtain ⟨value, result⟩ := each item List.mem_cons_self
      obtain ⟨values, results, length_eq⟩ :=
        ih fun other member => each other (List.mem_cons_of_mem item member)
      refine ⟨value :: values, ?_, congrArg (· + 1) length_eq⟩
      rw [List.mapM_cons, result, results]
      rfl

/-- If the results of items can only be certain values, the results of a list are these. -/
theorem eq_map_of_mapM_eq_ok {f : α → Except Fault β} {g : α → β}
    (only : ∀ item value, f item = .ok value → value = g item) {items : List α} {values : List β}
    (results : items.mapM f = .ok values) : values = items.map g := by
  induction items generalizing values with
  | nil => cases results; rfl
  | cons item rest ih =>
      rw [List.mapM_cons] at results
      obtain ⟨value, first, results⟩ := bind_eq_ok.mp results
      obtain ⟨others, second, results⟩ := bind_eq_ok.mp results
      cases results
      rw [only item value first, ih second, List.map_cons]

/-- If a list has results, they are those of its items. -/
theorem exists_map_of_mapM_eq_ok [Inhabited β] {f : α → Except Fault β} {items : List α}
    {values : List β} (results : items.mapM f = .ok values) :
    ∃ g : α → β, values = items.map g ∧ ∀ item ∈ items, f item = .ok (g item) := by
  refine ⟨fun item => (f item).toOption.getD default, eq_map_of_mapM_eq_ok ?_ results, ?_⟩
  · intro item value result
    rw [result]
    rfl
  · induction items generalizing values with
    | nil => exact nofun
    | cons first rest ih =>
        rw [List.mapM_cons] at results
        obtain ⟨value, result, results⟩ := bind_eq_ok.mp results
        obtain ⟨others, later, _⟩ := bind_eq_ok.mp results
        refine List.forall_mem_cons.mpr ⟨?_, ih later⟩
        dsimp only
        rw [result]
        rfl

end RecallChat.Outcome
