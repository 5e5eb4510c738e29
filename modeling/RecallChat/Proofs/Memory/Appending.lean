import RecallChat.Memory
import RecallChat.Proofs.Floating.Nearest
import RecallChat.Proofs.Outcome

/-!
# Appending to a memory

A memory is used by calls that add one entry or a list of records, and by calls that only read.
Calls can fail.  No call takes an entry away or changes one: what a memory held stays the beginning
of what it holds, a call that fails leaves it as it was, and a list of records is appended as a whole
or not at all (`Memory.Event.Appends`).  One call keeps this (`Operation.event_appends`), and so do
all calls one after the other (`run_appends`).

A vector is stored number by number in reading order.  A number with a point is rounded to the
nearest value of thirty-two bits.  An integer is rounded to sixty-four bits before: one of at most
fifty-three bits is such a value already, but a longer one can come to lie between two values of
thirty-two bits there, so it is not always stored as the nearest one (`Number.StoredAs`,
`longInteger_strays`).
-/

set_option autoImplicit false

namespace RecallChat

/-! ## Stored numbers -/

/-- That a number is stored as a value of thirty-two bits. -/
inductive Number.StoredAs : Number → Single → Prop
  | nan : StoredAs (.real .nan) .nan
  | infinite (negative : Bool) :
      StoredAs (.real (.infinite .double negative)) (.infinite .single negative)
  | finite {x : Double} {stored : Single} (finite : x.isFinite = true)
      (nearest : stored.Nearest x.exact) (sign : stored.isNegative = x.isNegative) :
      StoredAs (.real x) stored
  | short {n : Int} {stored : Single} (few : n.natAbs < 2 ^ 53) (nearest : stored.Nearest n)
      (sign : stored.isNegative = decide (n < 0)) : StoredAs (.integer n) stored
  | long {n : Int} {wide : Double} {stored : Single} (many : 2 ^ 53 ≤ n.natAbs)
      (finite : wide.isFinite = true) (first : wide.Nearest n) (second : stored.Nearest wide.exact)
      (sign : stored.isNegative = decide (n < 0)) : StoredAs (.integer n) stored

/-- A short integer is stored as the value nearest to it. -/
theorem Number.StoredAs.nearest_of_short {n : Int} {stored : Single}
    (storedAs : (Number.integer n).StoredAs stored) (few : n.natAbs < 2 ^ 53) :
    stored.Nearest n := by
  cases storedAs with
  | short _ nearest _ => exact nearest
  | long many => exact absurd few (Nat.not_lt.mpr many)

/-- A number that is a value of sixty-four bits is stored as what this is converted to. -/
theorem Number.storedAs_convert {number : Number} {x : Double} (real : number.toReal? = some x) :
    number.StoredAs (x.convert .single) := by
  cases number with
  | real y =>
      cases real
      cases x with
      | nan => exact .nan
      | signed negative magnitude bounded =>
          by_cases finite : magnitude < Format.double.infinity
          · have isFinite : (Floating.signed negative magnitude bounded : Double).isFinite = true :=
              decide_eq_true finite
            obtain ⟨nearest, sign⟩ :=
              Floating.convert_nearest .single (by decide) isFinite
            exact .finite isFinite nearest sign
          · obtain rfl : magnitude = Format.double.infinity :=
              Nat.le_antisymm bounded (Nat.le_of_not_lt finite)
            have infinite := StoredAs.infinite negative
            rwa [← Floating.convert_infinite .double .single] at infinite
  | integer n =>
      change realOfInt? n = some x at real
      unfold realOfInt? at real
      dsimp only at real
      split at real
      · next finite =>
        cases real
        obtain ⟨first, sign'⟩ := Floating.ofInt_nearest .double (by decide) n
        obtain ⟨second, sign⟩ := Floating.convert_nearest .single (by decide) finite
        by_cases few : n.natAbs < 2 ^ 53
        · rw [Floating.exact_ofInt_double few] at second
          exact .short few second (sign.trans sign')
        · exact .long (Nat.le_of_not_lt few) finite first second (sign.trans sign')
      · cases real

namespace Value

/-- That a nest holds numbers only. -/
def IsNumbers (value : Value) : Prop := ∀ leaf ∈ value.leaves, ∃ number, leaf.number? = some number

/-- That the numbers of a nest are stored as a vector, one after the other. -/
def StoredAs (value : Value) (vector : Vector32) : Prop :=
  List.Forall₂ (fun leaf x => ∃ number, leaf.number? = some number ∧ number.StoredAs x)
    value.leaves vector

/-- That a nest of numbers can be stored: it has a shape, and no integer in it rounds beyond the
finite values of sixty-four bits. -/
structure Storable (value : Value) : Prop where
  shaped : ∃ shape, value.shape = .ok shape
  fits : ∀ leaf ∈ value.leaves, ∀ n, leaf.number? = some (.integer n) →
    (Floating.ofInt .double n).isFinite = true

/-- A number is read by way of sixty-four bits. -/
theorem toSingle_of_number {leaf : Value} {number : Number}
    (isNumber : leaf.number? = some number) :
    (∃ x, number.toReal? = some x ∧ leaf.toSingle = .ok (x.convert .single)) ∨
      number.toReal? = none ∧ ∃ fault, leaf.toSingle = .error fault := by
  cases leaf with
  | boolean value =>
      cases isNumber
      cases value
      · exact .inl ⟨_, rfl, rfl⟩
      · exact .inl ⟨_, rfl, rfl⟩
  | integer n =>
      cases isNumber
      cases real : Number.realOfInt? n with
      | none =>
          refine .inr ⟨real, .tooLarge "integer too large for a number with a point", ?_⟩
          rw [toSingle, toDouble, real]
          rfl
      | some x =>
          refine .inl ⟨x, real, ?_⟩
          rw [toSingle, toDouble, real]
          rfl
  | real x =>
      cases isNumber
      exact .inl ⟨x, rfl, rfl⟩
  | _ => cases isNumber

/-- Only an integer can be no value of sixty-four bits. -/
theorem toReal?_isSome_iff {number : Number} :
    (∃ x, number.toReal? = some x) ↔
      ∀ n, number = .integer n → (Floating.ofInt .double n).isFinite = true := by
  cases number with
  | real x =>
      constructor
      · intro _ n same
        cases same
      · intro _
        exact ⟨x, rfl⟩
  | integer n =>
      unfold Number.toReal? Number.realOfInt?
      constructor
      · rintro ⟨x, real⟩ m same
        cases same
        dsimp only at real
        split at real
        · assumption
        · cases real
      · intro finite
        exact ⟨_, if_pos (finite n rfl)⟩

end Value

namespace Vector32

/-- **A nest of numbers that has a vector is stored as it**, and it has one exactly when it can be
stored. -/
theorem ofValue_of_numbers {value : Value} (numbers : value.IsNumbers) :
    (∀ vector, ofValue value = .ok vector → value.StoredAs vector) ∧
      ((∃ vector, ofValue value = .ok vector) ↔ value.Storable) := by
  refine ⟨?_, ?_, ?_⟩
  · intro vector isVector
    obtain ⟨_, _, read⟩ := Outcome.bind_eq_ok.mp isVector
    have each := (List.forall₂_and_left value.leaves vector).mpr
      ⟨numbers, Outcome.mapM_eq_ok_iff.mp read⟩
    refine each.imp ?_
    rintro leaf x ⟨⟨number, isNumber⟩, stored⟩
    refine ⟨number, isNumber, ?_⟩
    rcases Value.toSingle_of_number isNumber with ⟨y, real, single⟩ | ⟨_, fault, refused⟩
    · rw [single] at stored
      cases stored
      exact Number.storedAs_convert real
    · rw [refused] at stored
      cases stored
  · rintro ⟨vector, isVector⟩
    obtain ⟨shape, shaped, read⟩ := Outcome.bind_eq_ok.mp isVector
    refine ⟨⟨shape, shaped⟩, fun leaf member n isNumber => ?_⟩
    obtain ⟨x, single⟩ := Outcome.exists_of_mapM_eq_ok read member
    rcases Value.toSingle_of_number isNumber with ⟨y, real, _⟩ | ⟨_, fault, refused⟩
    · exact Value.toReal?_isSome_iff.mp ⟨y, real⟩ n rfl
    · rw [single] at refused
      cases refused
  · rintro ⟨⟨shape, shaped⟩, fits⟩
    obtain ⟨vector, read, _⟩ := Outcome.exists_mapM_eq_ok (f := Value.toSingle) fun leaf member => by
      obtain ⟨number, isNumber⟩ := numbers leaf member
      have real := Value.toReal?_isSome_iff.mpr fun n same => fits leaf member n (same ▸ isNumber)
      rcases Value.toSingle_of_number isNumber with ⟨y, _, single⟩ | ⟨absent, _⟩
      · exact ⟨_, single⟩
      · obtain ⟨x, present⟩ := real
        rw [absent] at present
        cases present
    exact ⟨vector, Outcome.bind_eq_ok.mpr ⟨shape, shaped, read⟩⟩

end Vector32

/-! ## Entries of records -/

namespace MemoryRecord

/-- That an entry holds the text and the numbers of a record. -/
def HeldBy (record : MemoryRecord) (entry : MemoryEntry) : Prop :=
  ∃ embedding, record = ⟨some entry.text, some embedding⟩ ∧
    (embedding.IsNumbers → embedding.StoredAs entry.vector)

/-- That a record, where it has an embedding, has one of numbers. -/
def IsNumbers (record : MemoryRecord) : Prop :=
  ∀ embedding, record.embedding = some embedding → embedding.IsNumbers

/-- That a record is complete and its embedding can be stored. -/
def Loadable (record : MemoryRecord) : Prop :=
  ∃ text embedding, record = ⟨some text, some embedding⟩ ∧ embedding.Storable

variable {record : MemoryRecord}

/-- An entry that is made of a record holds what stands in it. -/
theorem heldBy_of_entryOfRecord {entry : MemoryEntry}
    (made : Memory.entryOfRecord record = .ok entry) : record.HeldBy entry := by
  rcases record with ⟨_ | text, _ | embedding⟩
  · cases made
  · cases made
  · cases made
  · obtain ⟨vector, isVector, rfl⟩ := Outcome.map_eq_ok.mp made
    exact ⟨embedding, rfl, fun numbers => (Vector32.ofValue_of_numbers numbers).1 vector isVector⟩

/-- A record of numbers has an entry exactly when it is complete and can be stored. -/
theorem loadable_iff (numbers : record.IsNumbers) :
    (∃ entry, Memory.entryOfRecord record = .ok entry) ↔ record.Loadable := by
  constructor
  · rintro ⟨entry, made⟩
    obtain ⟨embedding, rfl, _⟩ := heldBy_of_entryOfRecord made
    obtain ⟨vector, isVector, _⟩ := Outcome.map_eq_ok.mp made
    exact ⟨_, embedding, rfl,
      (Vector32.ofValue_of_numbers (numbers embedding rfl)).2.mp ⟨vector, isVector⟩⟩
  · rintro ⟨text, embedding, rfl, storable⟩
    obtain ⟨vector, isVector⟩ :=
      (Vector32.ofValue_of_numbers (numbers embedding rfl)).2.mpr storable
    exact ⟨⟨text, vector⟩, Outcome.map_eq_ok.mpr ⟨vector, isVector, rfl⟩⟩

end MemoryRecord

namespace Memory

/-! ## Calls -/

/-- A call of a memory. -/
inductive Operation where
  | add (text embedding : Value)
  | extend (records : List MemoryRecord)
  | search (query : Value) (limit : Limit)
  | searchTexts (query : Value) (limit : Limit)
  | entries
  | toRecords

/-- What a call gives. -/
inductive Answer where
  | nothing
  | count (number : Nat)
  | scores (found : List (Value × Double))
  | texts (found : List Value)
  | entries (entries : List MemoryEntry)
  | records (records : List MemoryRecord)

/-- A call that was made: what it was, how it ended, and the memory before and after it. -/
structure Event where
  before : Memory
  operation : Operation
  outcome : Except Fault Answer
  after : Memory

namespace Operation

/-- The outcome of a call and the memory it leaves. -/
def perform (memory : Memory) : Operation → Except Fault Answer × Memory
  | add text embedding =>
    match memory.add text embedding with
    | .ok added => (.ok .nothing, added)
    | .error fault => (.error fault, memory)
  | extend records =>
    match memory.extend records with
    | .ok (number, extended) => (.ok (.count number), extended)
    | .error fault => (.error fault, memory)
  | search query limit => ((memory.search query limit).map .scores, memory)
  | searchTexts query limit => ((memory.searchTexts query limit).map .texts, memory)
  | entries => (.ok (.entries memory.entries), memory)
  | toRecords => (.ok (.records memory.toRecords), memory)

/-- A call as an event. -/
def event (memory : Memory) (operation : Operation) : Event :=
  ⟨memory, operation, (operation.perform memory).1, (operation.perform memory).2⟩

/-- The records that a call is to append; a call that reads has none. -/
def given : Operation → List MemoryRecord
  | add text embedding => [⟨some text, some embedding⟩]
  | extend records => records
  | _ => []

/-- Whether a call appends. -/
def isAppend : Operation → Bool
  | add .. => true
  | extend _ => true
  | _ => false

/-- The answer of a call that has appended its records. -/
def receipt : Operation → Answer
  | extend records => .count records.length
  | _ => .nothing

end Operation

/-- What a call does to a memory. -/
structure Event.Appends (event : Event) : Prop where
  grows : event.before.entries <+: event.after.entries
  failed : ∀ fault, event.outcome = .error fault → event.after = event.before
  succeeded : ∀ answer, event.outcome = .ok answer → ∃ entries,
    List.Forall₂ MemoryRecord.HeldBy event.operation.given entries ∧
      event.after.entries = event.before.entries ++ entries
  receipt_eq : event.operation.isAppend = true → ∀ answer, event.outcome = .ok answer →
    answer = event.operation.receipt
  accepted_iff : event.operation.isAppend = true →
    (∀ record ∈ event.operation.given, record.IsNumbers) →
      ((∃ answer, event.outcome = .ok answer) ↔
        ∀ record ∈ event.operation.given, record.Loadable)

/-- The events of calls made one after the other, and the memory after all of them. -/
def run : List Operation → Memory → List Event × Memory
  | [], memory => ([], memory)
  | operation :: rest, memory =>
    let event := operation.event memory
    let (others, last) := run rest event.after
    (event :: others, last)

/-! ## Keeping what is there -/

section Steps

variable {memory after : Memory} {operation : Operation}

/-- A call that only reads appends nothing. -/
theorem Event.appends_of_read (reads : operation.isAppend = false) (none : operation.given = [])
    (outcome : Except Fault Answer) : Event.Appends ⟨memory, operation, outcome, memory⟩ where
  grows := List.prefix_refl _
  failed := fun _ _ => rfl
  succeeded := by
    intro answer _
    refine ⟨[], ?_, (List.append_nil _).symm⟩
    change List.Forall₂ _ operation.given []
    rw [none]
    exact .nil
  receipt_eq := by
    intro appends
    rw [reads] at appends
    cases appends
  accepted_iff := by
    intro appends
    rw [reads] at appends
    cases appends

/-- All records are read before the first entry is appended. -/
theorem Event.appends_of_mapM (outcome : Except Fault Answer)
    (whole : (∃ entries, operation.given.mapM entryOfRecord = .ok entries ∧
        outcome = .ok operation.receipt ∧ after.entries = memory.entries ++ entries) ∨
      ∃ fault, operation.given.mapM entryOfRecord = .error fault ∧ outcome = .error fault ∧
        after = memory) : Event.Appends ⟨memory, operation, outcome, after⟩ := by
  rcases whole with ⟨entries, made, rfl, longer⟩ | ⟨fault, refused, rfl, rfl⟩
  · constructor
    case grows => exact ⟨entries, longer.symm⟩
    case failed => nofun
    case succeeded =>
      intro answer _
      exact ⟨entries, (Outcome.mapM_eq_ok_iff.mp made).imp
        fun _ _ => MemoryRecord.heldBy_of_entryOfRecord, longer⟩
    case receipt_eq =>
      intro _ answer same
      cases same
      rfl
    case accepted_iff =>
      intro _ numbers
      refine ⟨fun _ record member => ?_, fun _ => ⟨_, rfl⟩⟩
      exact (MemoryRecord.loadable_iff (numbers record member)).mp
        (Outcome.exists_of_mapM_eq_ok made member)
  · constructor
    case grows => exact List.prefix_refl _
    case failed => exact fun _ _ => rfl
    case succeeded => nofun
    case receipt_eq => nofun
    case accepted_iff =>
      intro _ numbers
      refine ⟨nofun, fun loadable => ?_⟩
      obtain ⟨entries, made, _⟩ := Outcome.exists_mapM_eq_ok (f := entryOfRecord)
        fun record member =>
          (MemoryRecord.loadable_iff (numbers record member)).mpr (loadable record member)
      rw [refused] at made
      cases made

/-- **One call appends its records, or nothing.** -/
theorem Operation.event_appends (memory : Memory) (operation : Operation) :
    (operation.event memory).Appends := by
  cases operation with
  | add text embedding =>
      refine Event.appends_of_mapM _ ?_
      have single : (Operation.add text embedding).given.mapM entryOfRecord =
          (entryOf text embedding).map fun entry => [entry] := by
        rw [given, List.mapM_cons]
        change (entryOf text embedding >>= fun entry => pure [entry]) = _
        cases entryOf text embedding <;> rfl
      rw [single, perform, Memory.add]
      cases entryOf text embedding with
      | ok entry => exact .inl ⟨[entry], rfl, rfl, rfl⟩
      | error fault => exact .inr ⟨fault, rfl, rfl, rfl⟩
  | extend records =>
      refine Event.appends_of_mapM _ ?_
      rw [given, perform, Memory.extend]
      cases made : records.mapM entryOfRecord with
      | ok entries =>
          refine .inl ⟨entries, rfl, ?_, rfl⟩
          rw [receipt, (Outcome.mapM_eq_ok_iff.mp made).length_eq]
          rfl
      | error fault => exact .inr ⟨fault, rfl, rfl, rfl⟩
  | search query limit => exact Event.appends_of_read rfl rfl _
  | searchTexts query limit => exact Event.appends_of_read rfl rfl _
  | entries => exact Event.appends_of_read rfl rfl _
  | toRecords => exact Event.appends_of_read rfl rfl _

end Steps

/-- What a memory held is the beginning of what it holds after any calls. -/
theorem prefix_run (operations : List Operation) (memory : Memory) :
    memory.entries <+: (run operations memory).2.entries := by
  induction operations generalizing memory with
  | nil => exact List.prefix_refl _
  | cons operation rest ih => exact (operation.event_appends memory).grows.trans (ih _)

/-- **A memory only grows.**  Whatever calls are made one after the other, each leaves the memory as
it was or appends exactly its records, one after the other, and what was there stays the beginning
of what is there after any later call. -/
theorem run_appends (operations : List Operation) (memory : Memory) :
    (run operations memory).1.map Event.operation = operations ∧
      (∀ event ∈ (run operations memory).1, event.Appends ∧
        memory.entries <+: event.before.entries ∧
        event.after.entries <+: (run operations memory).2.entries) ∧
      (run operations memory).1.Pairwise
        fun earlier later => earlier.after.entries <+: later.before.entries := by
  induction operations generalizing memory with
  | nil => exact ⟨rfl, fun _ member => absurd member List.not_mem_nil, .nil⟩
  | cons operation rest ih =>
      obtain ⟨made, each, ordered⟩ := ih (operation.event memory).after
      have first := operation.event_appends memory
      refine ⟨congrArg (operation :: ·) made, List.forall_mem_cons.mpr ⟨?_, ?_⟩, ?_⟩
      · exact ⟨first, List.prefix_refl _, prefix_run rest _⟩
      · intro event member
        obtain ⟨appends, begins, ends⟩ := each event member
        exact ⟨appends, first.grows.trans begins, ends⟩
      · exact List.pairwise_cons.mpr ⟨fun later member => (each later member).2.1, ordered⟩

/-- A text with a nest of numbers, then records of which the second has no embedding, then one that
is complete. -/
def entrances : List Operation :=
  [.add (.text "a") (.list [.list [.integer 1], .list [.boolean true]]),
    .extend [⟨some (.text "b"), some (.list [])⟩, ⟨some (.text "c"), none⟩],
    .extend [⟨some (.text "b"), some (.list [])⟩]]

/-- The nest is stored as two numbers nearest to one, the second call fails and appends nothing, and
the third finds what the first has appended. -/
theorem entrances_append :
    (run entrances empty).2.entries.map MemoryEntry.text = [.text "a", .text "b"] ∧
      (∃ x y, (run entrances empty).2.entries.map MemoryEntry.vector = [[x, y], []] ∧
        x.Nearest (1 : Int) ∧ y.Nearest (1 : Int)) ∧
      ∃ event ∈ (run entrances empty).1, event.after = event.before ∧
        ¬ ∀ record ∈ event.operation.given, record.Loadable := by
  obtain ⟨_, each, _⟩ := run_appends entrances empty
  obtain ⟨⟨first, _⟩, others⟩ := List.forall_mem_cons.mp each
  obtain ⟨⟨second, _⟩, _⟩ := List.forall_mem_cons.mp others
  refine ⟨rfl, ⟨Floating.ofInt .single 1, Floating.ofInt .single 1, rfl, ?_⟩,
    _, .tail _ (.head _), second.failed _ rfl, ?_⟩
  · obtain ⟨entries, held, longer⟩ := first.succeeded .nothing rfl
    have made : [⟨.text "a", [Floating.ofInt .single 1, Floating.ofInt .single 1]⟩] = entries :=
      longer
    subst made
    obtain ⟨⟨embedding, same, stored⟩, _⟩ := List.forall₂_cons.mp held
    cases same
    have numbers : Value.IsNumbers (.list [.list [.integer 1], .list [.boolean true]]) := by
      simp [Value.IsNumbers, Value.leaves, Value.leavesOf, Value.number?]
    obtain ⟨⟨_, isOne, one⟩, rest⟩ := List.forall₂_cons.mp (stored numbers)
    obtain ⟨⟨_, isOne', one'⟩, _⟩ := List.forall₂_cons.mp rest
    cases isOne
    cases isOne'
    exact ⟨one.nearest_of_short (by decide), one'.nearest_of_short (by decide)⟩
  · intro loadable
    have numbers : ∀ record ∈ [⟨some (.text "b"), some (.list [])⟩, ⟨some (.text "c"), none⟩],
        MemoryRecord.IsNumbers record := by
      simp [MemoryRecord.IsNumbers, Value.IsNumbers, Value.leaves, Value.leavesOf]
    obtain ⟨answer, accepted⟩ := (second.accepted_iff rfl numbers).mpr loadable
    cases accepted

/-- An integer just above the middle between two values of thirty-two bits; with fifty-three bits it
lies in the middle. -/
def longInteger : Int := 2 ^ 53 + 2 ^ 29 + 1

/-- A stored number need not be the nearest one: the integer is stored as the value below it, and
the one above it is nearer. -/
theorem longInteger_strays :
    ∃ stored : Single,
      (Operation.add (.text "t") (.list [.integer longInteger])).perform empty =
          (.ok .nothing, ⟨[⟨.text "t", [stored]⟩]⟩) ∧
        ¬ stored.Nearest longInteger := by
  refine ⟨.signed false 0x5a000000 (by decide), rfl, fun nearest => ?_⟩
  have near := nearest.near (.signed false 0x5a000001 (by decide)) rfl
  have parts : Format.single.parts 0x5a000000 = (2 ^ 23, 30) := by decide
  have parts' : Format.single.parts 0x5a000001 = (2 ^ 23 + 1, 30) := by decide
  simp only [Floating.exact, Format.exact, parts, parts', longInteger] at near
  norm_num [abs_of_neg, abs_of_pos] at near

end Memory

end RecallChat
