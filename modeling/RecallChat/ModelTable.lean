import RecallChat.Path
import RecallChat.Tier

/-!
# The model table

A table names a language model file for every tier and task; the embedding model and the tokenizer
have fixed names and are shared by all tasks of a tier.  Looking up a pair that the table lacks gives
no paths (`ModelTable.artifacts?`).  `Locator.make` accepts exactly the tables in which no pair lacks
a name, so that `Locator.resolve` has the three paths of every pair.  Whether the files exist is
asked elsewhere.
-/

namespace RecallChat

open RecallChat.Text

set_option autoImplicit false

/-- What a language model is loaded for. -/
inductive ModelTask where
  | chat
  | predict
  | categorise
  deriving DecidableEq, Repr, Inhabited

namespace ModelTask

/-- The tasks in their usual order. -/
def all : List ModelTask := [.chat, .predict, .categorise]

/-- The name of a task. -/
def name : ModelTask → String
  | .chat => "chat"
  | .predict => "predict"
  | .categorise => "categorise"

/-- The task with the given name, in any case and with blanks around it. -/
def ofName? (name : String) : Option ModelTask :=
  all.find? fun task => task.name == Text.lowered (Text.trimmed name)

/-- The task that a configured name denotes. -/
def parse (name : Value) : Except Fault ModelTask := do
  let text ← name.inWords
  match ofName? text with
  | some task => return task
  | none => throw (.config (.unknownTask text (all.map ModelTask.name)))

end ModelTask

/-- Model file names by tier and task; a later row replaces an earlier one for the same pair. -/
abbrev ModelTable := List (Tier × ModelTask × CodePoints)

namespace ModelTable

/-- The file name of a pair. -/
def filename? (table : ModelTable) (tier : Tier) (task : ModelTask) : Option CodePoints :=
  (table.reverse.find? fun row => row.1 == tier && row.2.1 == task).map fun row => row.2.2

/-- All pairs of a tier and a task, tier by tier. -/
def pairs : List (Tier × ModelTask) :=
  Tier.all.flatMap fun tier => ModelTask.all.map fun task => (tier, task)

/-- The pairs for which a table has no name or an empty one. -/
def missing (table : ModelTable) : List (Tier × ModelTask) :=
  pairs.filter fun (tier, task) => ((table.filename? tier task).getD []).isEmpty

theorem mem_pairs (tier : Tier) (task : ModelTask) : (tier, task) ∈ pairs := by
  cases tier <;> cases task <;> decide

/-- A table in which nothing is missing has a file name for every pair. -/
theorem exists_filename {table : ModelTable} (complete : table.missing = []) (tier : Tier)
    (task : ModelTask) : ∃ name, table.filename? tier task = some name ∧ name ≠ [] := by
  have named := List.filter_eq_nil_iff.mp complete (tier, task) (mem_pairs tier task)
  cases found : table.filename? tier task with
  | none => simp [found] at named
  | some name => exact ⟨name, rfl, by simpa [found] using named⟩

/-- The built-in table: low tiers share one file among their tasks, and predicting and categorising
share one in every tier. -/
def builtIn : ModelTable :=
  let row (tier : Tier) (chat other : String) : ModelTable :=
    [(tier, .chat, .ofString chat), (tier, .predict, .ofString other),
      (tier, .categorise, .ofString other)]
  row .micro "qwen2-0.5b-instruct.onnx" "qwen2-0.5b-instruct.onnx" ++
  row .small "phi-3-mini-instruct.onnx" "qwen2-1.5b-instruct.onnx" ++
  row .medium "llama-3-8b-instruct.onnx" "qwen2-7b-instruct.onnx" ++
  row .large "llama-3-8b-instruct.onnx" "qwen2-7b-instruct.onnx" ++
  row .huge "llama-3-8b-instruct.onnx" "qwen2-7b-instruct.onnx"

end ModelTable

/-- The artifacts of one engine. -/
structure ModelPaths where
  chat : Path
  embedding : Path
  tokenizer : Path
  deriving DecidableEq, Repr

/-- The three paths in the order in which they are listed. -/
def ModelPaths.toList (paths : ModelPaths) : List Path :=
  [paths.chat, paths.embedding, paths.tokenizer]

namespace ModelTable

/-- The file name of every tier's embedding model. -/
def embeddingName : String := "embedding.onnx"

/-- The file name of every tier's tokenizer. -/
def tokenizerName : String := "tokenizer.json"

/-- The artifacts of a pair in the directory of its tier, if the table has the pair. -/
def artifacts? (table : ModelTable) (directory : Path) (tier : Tier) (task : ModelTask) :
    Option ModelPaths :=
  (table.filename? tier task).map fun name =>
    ⟨directory.child name, directory.child (.ofString embeddingName),
      directory.child (.ofString tokenizerName)⟩

theorem isSome_artifacts? {table : ModelTable} (complete : table.missing = [])
    (directory : Path) (tier : Tier) (task : ModelTask) :
    (table.artifacts? directory tier task).isSome = true := by
  obtain ⟨name, found, _⟩ := exists_filename complete tier task
  rw [artifacts?, found]
  rfl

end ModelTable

/-- A directory with one subdirectory per tier, and a table without gaps. -/
structure Locator where
  base : Path
  table : ModelTable
  complete : table.missing = []

namespace Locator

/-- The directory in which models are looked for when none is named. -/
def defaultBase : String := "models"

/-- A locator, refused when the table has gaps. -/
def make (base : Path) (table : ModelTable) : Except Fault Locator :=
  if complete : table.missing = [] then .ok ⟨base, table, complete⟩
  else
    .error (.config (.missingModels
      (table.missing.map fun (tier, task) => tier.name ++ "/" ++ task.name)))

/-- The directory of a tier. -/
def tierDirectory (locator : Locator) (tier : Tier) : Path :=
  locator.base.child (.ofString tier.name)

/-- The artifacts of a tier for a task. -/
def resolve (locator : Locator) (tier : Tier) (task : ModelTask) : ModelPaths :=
  (locator.table.artifacts? (locator.tierDirectory tier) tier task).get
    (ModelTable.isSome_artifacts? locator.complete _ tier task)

end Locator

end RecallChat
