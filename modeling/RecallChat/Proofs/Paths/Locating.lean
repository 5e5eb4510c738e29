import RecallChat.ModelTable
import RecallChat.Proofs.Paths.Components

/-!
# Locating models

A locator is refused for exactly the tables that lack a file name of some pair, and the refusal lists
the pairs that lack one (`ModelTable.Lacks`).  Whatever locator there is finds the paths of every
pair (`Locator.Locates`): no look-up fails, the tasks of a tier share its embedding model and its
tokenizer, no two tiers share anything, and a chat model lies below the directory of its tier, which
lies below the base.  Reading the text of any of these paths gives the path again.

The main theorem says both of all bases and all tables (`Locator.make_locates`).
-/

set_option autoImplicit false

namespace RecallChat

open RecallChat.Text

/-- The pieces of a text between its slashes that are neither empty nor a dot. -/
def Text.CodePoints.components (points : CodePoints) : List CodePoints :=
  (points.splitOn 0x2f).filter fun piece => decide (piece ≠ [] ∧ piece ≠ [0x2e])

/-! ## Gaps -/

namespace ModelTable

variable {table : ModelTable} {tier : Tier} {task : ModelTask}

/-- That a table has no file name for a pair, or an empty one. -/
def Lacks (table : ModelTable) (tier : Tier) (task : ModelTask) : Prop :=
  table.filename? tier task = none ∨ table.filename? tier task = some []

instance : Decidable (table.Lacks tier task) :=
  inferInstanceAs (Decidable (table.filename? tier task = none ∨ _))

/-- The pairs that a table lacks, tier by tier, as a refusal lists them. -/
def gaps (table : ModelTable) : List String :=
  (pairs.filter fun pair => decide (table.Lacks pair.1 pair.2)).map fun pair =>
    pair.1.name ++ "/" ++ pair.2.name

theorem lacks_iff :
    ((table.filename? tier task).getD []).isEmpty = true ↔ table.Lacks tier task := by
  rw [List.isEmpty_iff, Lacks]
  cases table.filename? tier task <;> simp

theorem missing_eq (table : ModelTable) :
    table.missing = pairs.filter fun pair => decide (table.Lacks pair.1 pair.2) := by
  refine List.filter_congr fun pair _ => ?_
  rw [Bool.eq_iff_iff, decide_eq_true_iff]
  exact lacks_iff

theorem missing_eq_nil_iff : table.missing = [] ↔ ∀ tier task, ¬ table.Lacks tier task := by
  rw [missing_eq, List.filter_eq_nil_iff]
  constructor
  · exact fun none tier task lacks => none (tier, task) (mem_pairs tier task) (decide_eq_true lacks)
  · exact fun none pair _ lacks => none pair.1 pair.2 (of_decide_eq_true lacks)

end ModelTable

/-! ## Paths below a tier -/

namespace Path

theorem parts_ofPoints (points : CodePoints) : (ofPoints points).parts = points.components :=
  List.filter_congr fun piece _ => by
    rw [Bool.eq_iff_iff, isComponent_iff, decide_eq_true_iff]
    rfl

/-- A text that does not start with a slash lies below its base. -/
theorem child_of_relative (base : Path) {name : CodePoints}
    (relative : name.head? ≠ some 0x2f) :
    base.child name = ⟨base.slashes, base.parts ++ name.components⟩ := by
  have noRoot : (ofPoints name).isAbsolute = false :=
    bne_eq_false_iff_eq.mpr (rootSlashes_eq_zero_iff.mpr relative)
  rw [child, join_of_relative noRoot, parts_ofPoints]

theorem wellFormed_child {base : Path} (wellFormed : base.WellFormed)
    (name : CodePoints) : (base.child name).WellFormed :=
  wellFormed.join (wellFormed_ofPoints name)

end Path

namespace Locator

variable {locator : Locator} {tier tier' : Tier} {task task' : ModelTask} {name : CodePoints}

/-- What a locator for a base and a table finds. -/
structure Locates (locator : Locator) (base : CodePoints) (table : ModelTable) : Prop where
  found : ∀ tier task, ∃ name, table.filename? tier task = some name ∧ name ≠ [] ∧
    table.artifacts? (locator.tierDirectory tier) tier task = some (locator.resolve tier task)
  shared : ∀ tier task task',
    (locator.resolve tier task).embedding = (locator.resolve tier task').embedding ∧
      (locator.resolve tier task).tokenizer = (locator.resolve tier task').tokenizer
  apart : ∀ tier tier' task task', tier ≠ tier' →
    locator.tierDirectory tier ≠ locator.tierDirectory tier' ∧
      (locator.resolve tier task).embedding ≠ (locator.resolve tier' task').embedding ∧
      (locator.resolve tier task).tokenizer ≠ (locator.resolve tier' task').tokenizer
  chat : ∀ tier task name, table.filename? tier task = some name → name.head? ≠ some 0x2f →
    (locator.resolve tier task).chat =
      ⟨(Path.ofPoints base).slashes,
        base.components ++ .ofString tier.name :: name.components⟩
  readBack : ∀ tier task, ∀ path ∈ (locator.resolve tier task).toList,
    Path.ofPoints path.points = path

/-- What a table gives for a pair that it has. -/
theorem resolve_of_filename (found : locator.table.filename? tier task = some name) :
    locator.resolve tier task =
      ⟨(locator.tierDirectory tier).child name,
        (locator.tierDirectory tier).child (.ofString ModelTable.embeddingName),
        (locator.tierDirectory tier).child (.ofString ModelTable.tokenizerName)⟩ := by
  have looked : locator.table.artifacts? (locator.tierDirectory tier) tier task = some _ :=
    congrArg (Option.map _) found
  exact Option.get_of_eq_some _ looked

theorem embedding_eq (locator : Locator) (tier : Tier) (task : ModelTask) :
    (locator.resolve tier task).embedding =
      (locator.tierDirectory tier).child (.ofString ModelTable.embeddingName) := by
  obtain ⟨name, found, _⟩ := ModelTable.exists_filename locator.complete tier task
  rw [resolve_of_filename found]

theorem tokenizer_eq (locator : Locator) (tier : Tier) (task : ModelTask) :
    (locator.resolve tier task).tokenizer =
      (locator.tierDirectory tier).child (.ofString ModelTable.tokenizerName) := by
  obtain ⟨name, found, _⟩ := ModelTable.exists_filename locator.complete tier task
  rw [resolve_of_filename found]

/-- The directory of a tier is one more component. -/
theorem tierDirectory_eq (locator : Locator) (tier : Tier) :
    locator.tierDirectory tier =
      ⟨locator.base.slashes, locator.base.parts ++ [.ofString tier.name]⟩ := by
  have relative : (CodePoints.ofString tier.name).head? ≠ some 0x2f := by cases tier <;> decide
  have single : (CodePoints.ofString tier.name).components = [.ofString tier.name] := by
    cases tier <;> decide
  rw [tierDirectory, Path.child_of_relative _ relative, single]

theorem embeddingName_relative :
    (CodePoints.ofString ModelTable.embeddingName).head? ≠ some 0x2f := by decide

theorem tokenizerName_relative :
    (CodePoints.ofString ModelTable.tokenizerName).head? ≠ some 0x2f := by decide

/-- Two tiers have two directories, in which nothing has the same path. -/
theorem child_tierDirectory_ne (different : tier ≠ tier') {name : CodePoints}
    (relative : name.head? ≠ some 0x2f) :
    (locator.tierDirectory tier).child name ≠ (locator.tierDirectory tier').child name := by
  rw [tierDirectory_eq, tierDirectory_eq, Path.child_of_relative _ relative,
    Path.child_of_relative _ relative]
  intro same
  have parts := List.append_cancel_right (congrArg Path.parts same)
  have names := (List.cons.inj (List.append_cancel_left parts)).1
  revert different names
  cases tier <;> cases tier' <;> decide

/-- Whatever locator there is locates models. -/
theorem locates (locator : Locator) {base : CodePoints}
    (below : locator.base = Path.ofPoints base) : locator.Locates base locator.table where
  found tier task := by
    obtain ⟨name, found, given⟩ := ModelTable.exists_filename locator.complete tier task
    exact ⟨name, found, given, (Option.some_get _).symm⟩
  shared tier task task' := by
    simp only [embedding_eq, tokenizer_eq, and_self]
  apart tier tier' task task' different := by
    rw [embedding_eq, embedding_eq, tokenizer_eq, tokenizer_eq]
    have directories : (locator.tierDirectory tier).child [] ≠
        (locator.tierDirectory tier').child [] := child_tierDirectory_ne different nofun
    exact ⟨fun same => directories (congrArg (Path.child · []) same),
      child_tierDirectory_ne different embeddingName_relative,
      child_tierDirectory_ne different tokenizerName_relative⟩
  chat tier task name found relative := by
    rw [resolve_of_filename found, tierDirectory_eq, Path.child_of_relative _ relative, below,
      Path.parts_ofPoints, List.append_assoc, List.singleton_append]
  readBack tier task path member := by
    obtain ⟨name, found, _⟩ := ModelTable.exists_filename locator.complete tier task
    have directory : (locator.tierDirectory tier).WellFormed := by
      rw [tierDirectory, below]
      exact Path.wellFormed_child (Path.wellFormed_ofPoints base) _
    have reads (name : CodePoints) := Path.ofPoints_points
      (Path.wellFormed_child directory name)
    rw [resolve_of_filename found, ModelPaths.toList, List.mem_cons, List.mem_cons,
      List.mem_singleton] at member
    rcases member with rfl | rfl | rfl
    · exact reads name
    · exact reads (.ofString ModelTable.embeddingName)
    · exact reads (.ofString ModelTable.tokenizerName)

/-- **A table is refused for its gaps and for nothing else, and every other one locates the models of
all tiers and tasks.** -/
theorem make_locates (base : CodePoints) (table : ModelTable) :
    ((∃ fault, make (.ofPoints base) table = .error fault) ↔ ∃ tier task, table.Lacks tier task) ∧
    (∀ fault, make (.ofPoints base) table = .error fault →
      fault = .config (.missingModels table.gaps) ∧
        fault.text = "Model table has no entry for: " ++ ", ".intercalate table.gaps) ∧
    ∀ locator, make (.ofPoints base) table = .ok locator → locator.Locates base table := by
  by_cases complete : table.missing = []
  · have made : make (.ofPoints base) table = .ok ⟨.ofPoints base, table, complete⟩ :=
      dif_pos complete
    have full := ModelTable.missing_eq_nil_iff.mp complete
    rw [made]
    refine ⟨⟨nofun, fun ⟨tier, task, lacks⟩ => (full tier task lacks).elim⟩, nofun, ?_⟩
    rintro locator ⟨⟩
    exact locates _ rfl
  · have refused : make (.ofPoints base) table = .error (.config (.missingModels table.gaps)) := by
      rw [ModelTable.gaps, ← ModelTable.missing_eq]
      exact dif_neg complete
    have gap : ∃ tier task, table.Lacks tier task := by
      simpa [ModelTable.missing_eq_nil_iff] using complete
    rw [refused]
    refine ⟨⟨fun _ => gap, fun _ => ⟨_, rfl⟩⟩, ?_, nofun⟩
    rintro fault ⟨⟩
    exact ⟨rfl, rfl⟩

/-- The built-in table with a file name for one pair that goes up and has pieces to be dropped. -/
def detour : ModelTable := ModelTable.builtIn ++ [(.huge, .predict, .ofString "./../x//y")]

/-- The same table with an empty file name for that pair. -/
def emptied : ModelTable := detour ++ [(.huge, .predict, [])]

/-- The detour is taken from the directory of the tier, below a base with two slashes in front; the
emptied table is refused for that pair alone. -/
theorem detour_located :
    (∃ locator, make (.ofPoints (.ofString "//m/./a")) detour = .ok locator ∧
      (locator.resolve .huge .predict).chat.points = .ofString "//m/a/macro/../x/y") ∧
    ∃ fault, make (.ofPoints (.ofString "//m/./a")) emptied = .error fault ∧
      fault.text = "Model table has no entry for: macro/predict" := by
  constructor
  · obtain ⟨refuses, _, locates⟩ := make_locates (.ofString "//m/./a") detour
    have full : ∀ tier task, ¬ detour.Lacks tier task := by
      intro tier task
      cases tier <;> cases task <;> decide +kernel
    cases made : make (.ofPoints (.ofString "//m/./a")) detour with
    | error fault =>
        obtain ⟨tier, task, lacks⟩ := refuses.mp ⟨fault, made⟩
        exact (full tier task lacks).elim
    | ok locator =>
        have found : detour.filename? .huge .predict = some (.ofString "./../x//y") := by
          decide +kernel
        refine ⟨locator, rfl, ?_⟩
        rw [(locates locator made).chat .huge .predict _ found (by decide)]
        decide +kernel
  · obtain ⟨refuses, text, _⟩ := make_locates (.ofString "//m/./a") emptied
    have lacks : emptied.Lacks .huge .predict := by decide +kernel
    have gaps : emptied.gaps = ["macro/predict"] := by decide +kernel
    obtain ⟨fault, refused⟩ := refuses.mpr ⟨.huge, .predict, lacks⟩
    refine ⟨fault, refused, ?_⟩
    rw [(text fault refused).2, gaps]
    rfl

end Locator

end RecallChat
