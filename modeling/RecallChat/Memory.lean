import RecallChat.Limit
import RecallChat.Memory.Vector

/-!
# The memory

An append-only list of texts with their vectors.  `search` ranks all entries by their similarity to
a query, highest first, entries of equal similarity in the order in which they were added, and takes
as many as asked for.  A list of records is added as a whole or not at all.
-/

namespace RecallChat

set_option autoImplicit false

/-- A text with its vector. -/
structure MemoryEntry where
  text : Value
  vector : Vector32

/-- A record of a text and its vector, as stored outside; either can be missing. -/
structure MemoryRecord where
  text : Option Value
  embedding : Option Value

/-- The entries in the order in which they were added. -/
structure Memory where
  entries : List MemoryEntry

namespace Memory

/-- No entries. -/
def empty : Memory := ⟨[]⟩

/-- The number of entries. -/
def size (memory : Memory) : Nat := memory.entries.length

/-- The entry of a text with nested numbers as its vector. -/
def entryOf (text embedding : Value) : Except Fault MemoryEntry :=
  (Vector32.ofValue embedding).map fun vector => ⟨text, vector⟩

/-- The memory with one more entry. -/
def push (memory : Memory) (entry : MemoryEntry) : Memory := ⟨memory.entries ++ [entry]⟩

/-- The memory with a text added. -/
def add (memory : Memory) (text embedding : Value) : Except Fault Memory :=
  (entryOf text embedding).map memory.push

/-! ## Search -/

/-- The entries' texts with their similarities to a query, in the order of the entries. -/
def scores (memory : Memory) (query : Vector32) : List (Value × Double) :=
  memory.entries.map fun entry => (entry.text, entry.vector.cosine query)

/-- Whether the first similarity may stand before the second. -/
def ranksBefore (a b : Value × Double) : Bool := decide (b.2.place ≤ a.2.place)

/-- All texts with their similarities, the most similar first. -/
def ranking (memory : Memory) (query : Vector32) : List (Value × Double) :=
  (memory.scores query).mergeSort ranksBefore

/-- The `count` most similar texts with their similarities. -/
def top (memory : Memory) (query : Vector32) (count : Int) : List (Value × Double) :=
  (memory.ranking query).take count.toNat

/-- The most similar texts with their similarities, for a query given as nested numbers and a number
of results given as a configured limit. -/
def search (memory : Memory) (query : Value) (limit : Limit) :
    Except Fault (List (Value × Double)) := do
  if ← limit.isNotPositive then return []
  if memory.entries.isEmpty then return []
  let vector ← Vector32.ofValue query
  return memory.top vector (← limit.asCount)

/-- The most similar texts alone. -/
def searchTexts (memory : Memory) (query : Value) (limit : Limit) : Except Fault (List Value) :=
  (memory.search query limit).map fun found => found.map Prod.fst

/-! ## Records -/

/-- The entries as records. -/
def toRecords (memory : Memory) : List MemoryRecord :=
  memory.entries.map fun entry => ⟨some entry.text, some entry.vector.toValue⟩

/-- The entry of a record. -/
def entryOfRecord (record : MemoryRecord) : Except Fault MemoryEntry :=
  match record.text, record.embedding with
  | none, _ => .error (.missingKey "text")
  | some _, none => .error (.missingKey "embedding")
  | some text, some embedding => entryOf text embedding

/-- The memory with the entries of records added at its end, and their number. -/
def extend (memory : Memory) (records : List MemoryRecord) : Except Fault (Nat × Memory) :=
  (records.mapM entryOfRecord).map fun entries =>
    (entries.length, ⟨memory.entries ++ entries⟩)

end Memory

end RecallChat
