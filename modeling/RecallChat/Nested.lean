import RecallChat.Value
import RecallChat.WholeText

/-!
# Nested numbers

Numbers given in lists of lists.  A nest has a shape when all lists on one level have the same
shape and it is not too deep; `leaves` is its content in reading order.  Conversions to a fixed kind
of number refuse a nest without a shape first and then the first leaf that cannot be converted.
-/

namespace RecallChat

set_option autoImplicit false

/-- Whether an integer fits in sixty-four bits with a sign. -/
def fitsWord (n : Int) : Bool := decide (-(2 ^ 63 : Int) ≤ n ∧ n < 2 ^ 63)

/-- An integer of sixty-four bits with a sign. -/
def wordOfInt (n : Int) : Except Fault Int :=
  if fitsWord n then .ok n else .error (.tooLarge "integer too large for sixty-four bits")

theorem wordOfInt_cases (n : Int) :
    fitsWord n = true ∧ wordOfInt n = .ok n ∨
      fitsWord n = false ∧
        wordOfInt n = .error (.tooLarge "integer too large for sixty-four bits") := by
  unfold wordOfInt
  cases fitsWord n with
  | true => exact .inl ⟨rfl, rfl⟩
  | false => exact .inr ⟨rfl, rfl⟩

namespace Value

mutual
/-- The leaves of a nest in reading order. -/
def leaves : Value → List Value
  | list items => leavesOf items
  | tuple items => leavesOf items
  | leaf => [leaf]

/-- The leaves of several nests. -/
def leavesOf : List Value → List Value
  | [] => []
  | item :: rest => leaves item ++ leavesOf rest
end

/-- The shape of a list of nests with the given shapes. -/
def commonShape? (shapes : List (Option (List Nat))) : Option (List Nat) :=
  match shapes with
  | [] => some [0]
  | none :: _ => none
  | some first :: rest =>
    if rest.all (· == some first) then some (shapes.length :: first) else none

mutual
/-- The shape of a nest, if it has one. -/
def shape? : Value → Option (List Nat)
  | list items => commonShape? (shapesOf items)
  | tuple items => commonShape? (shapesOf items)
  | _ => some []

/-- The shapes of several nests. -/
def shapesOf : List Value → List (Option (List Nat))
  | [] => []
  | item :: rest => shape? item :: shapesOf rest
end

/-- The greatest number of levels of a nest. -/
def maxDimensions : Nat := 64

/-- The shape of a nest, refused where there is none or it is too deep. -/
def shape (value : Value) : Except Fault (List Nat) :=
  match value.shape? with
  | some shape =>
    if shape.length ≤ maxDimensions then .ok shape
    else .error (.wrongValue "more levels of lists than an array has dimensions")
  | none => .error (.wrongValue "lists of different shapes on one level")

/-! ## Flat lists -/

/-- Whether a value is a leaf of a nest. -/
def isLeaf : Value → Bool
  | list _ => false
  | tuple _ => false
  | _ => true

theorem leaves_of_isLeaf {value : Value} (leaf : value.isLeaf = true) : value.leaves = [value] := by
  cases value with
  | list items => cases leaf
  | tuple items => cases leaf
  | _ => rfl

theorem shape?_of_isLeaf {value : Value} (leaf : value.isLeaf = true) :
    value.shape? = some [] := by
  cases value with
  | list items => cases leaf
  | tuple items => cases leaf
  | _ => rfl

variable {items : List Value}

/-- A flat list has its items as leaves. -/
theorem leaves_list_of_flat (flat : ∀ item ∈ items, item.isLeaf = true) :
    (list items).leaves = items := by
  change leavesOf items = items
  induction items with
  | nil => rfl
  | cons item rest ih =>
      obtain ⟨leaf, flat⟩ := List.forall_mem_cons.mp flat
      rw [leavesOf, leaves_of_isLeaf leaf, ih flat]
      rfl

/-- A flat list has the shape of its length. -/
theorem shape_list_of_flat (flat : ∀ item ∈ items, item.isLeaf = true) :
    (list items).shape = .ok [items.length] := by
  have shapes : shapesOf items = List.replicate items.length (some []) := by
    induction items with
    | nil => rfl
    | cons item rest ih =>
        obtain ⟨leaf, flat⟩ := List.forall_mem_cons.mp flat
        rw [shapesOf, shape?_of_isLeaf leaf, ih flat]
        rfl
  have level : (list items).shape? = some [items.length] := by
    rw [shape?, shapes]
    cases items with
    | nil => rfl
    | cons item rest => simp [commonShape?, List.replicate_succ]
  rw [shape, level]
  rfl

/-! ## Leaves as numbers -/

/-- A leaf as a value of sixty-four bits. -/
def toDouble : Value → Except Fault Double
  | null => .ok .nan
  | boolean value => .ok (Floating.ofInt .double (if value then 1 else 0))
  | integer n =>
    match Number.realOfInt? n with
    | some x => .ok x
    | none => .error (.tooLarge "integer too large for a number with a point")
  | real x => .ok x
  | text value =>
    match Floating.read? .double value with
    | some x => .ok x
    | none => .error (.wrongValue ("not a number: " ++ Text.quoted value))
  | illFormed points => .error (.wrongValue ("not a number: " ++ points.quoted))
  | bytes value =>
    match Floating.ofCharacters? .double (value.map WholeText.byteCharacter) with
    | some x => .ok x
    | none => .error (.wrongValue ("not a number: " ++ quotedBytes value))
  | other =>
    .error (.wrongType
      ("no number can be of kind " ++ other.kindName))

/-- A leaf as a value of thirty-two bits, rounded by way of sixty-four. -/
def toSingle (value : Value) : Except Fault Single :=
  value.toDouble.map (Floating.convert .single)

/-- Only a leaf is a value of thirty-two bits. -/
theorem isLeaf_of_toSingle {value : Value} {single : Single}
    (converted : value.toSingle = .ok single) : value.isLeaf = true := by
  cases value with
  | list items => cases converted
  | tuple items => cases converted
  | _ => rfl

/-- A leaf as an integer of any size. -/
def toInteger : Value → Except Fault Int
  | boolean value => .ok (if value then 1 else 0)
  | integer n => .ok n
  | real x =>
    match x.truncate? with
    | some n => .ok n
    | none =>
      if x.isNaN then .error (.wrongValue "cannot convert float NaN to integer")
      else .error (.tooLarge "cannot convert float infinity to integer")
  | text value => WholeText.read value
  | illFormed points => .error (WholeText.refusal points.quoted)
  | bytes value => WholeText.ofCharacters (quotedBytes value) (value.map WholeText.byteCharacter)
  | other =>
    .error (.wrongType
      ("int() argument must be a string, a bytes-like object or a real number, not '" ++
        other.kindName ++ "'"))

/-- A leaf as an integer of sixty-four bits. -/
def toWord (value : Value) : Except Fault Int := value.toInteger.bind wordOfInt

end Value

end RecallChat
