import RecallChat.Nested

/-!
# Tensors

An array of numbers of one kind with a shape; the elements stand in reading order.  Graphs take and
return tensors under names.  Any tensor of numbers can be read as values of thirty-two bits.
-/

namespace RecallChat

set_option autoImplicit false

/-- The elements of a tensor, by kind. -/
inductive Elements where
  | half (values : Array (Floating .half))
  | single (values : Array Single)
  | double (values : Array Double)
  | integer (isSigned : Bool) (bits : Nat) (values : Array Int)
  | boolean (values : Array Bool)
  | mixed (values : Array Value)

namespace Elements

/-- The number of elements. -/
def size : Elements → Nat
  | half values => values.size
  | single values => values.size
  | double values => values.size
  | integer _ _ values => values.size
  | boolean values => values.size
  | mixed values => values.size

/-- The name of the kind of the elements. -/
def kindName : Elements → String
  | half _ => "float16"
  | single _ => "float32"
  | double _ => "float64"
  | integer isSigned bits _ => (if isSigned then "int" else "uint") ++ toString bits
  | boolean _ => "bool"
  | mixed _ => "object"

/-- The elements as values of thirty-two bits. -/
def toSingles : Elements → Array Single
  | half values => values.map (Floating.convert .single)
  | single values => values
  | double values => values.map (Floating.convert .single)
  | integer _ _ values => values.map (Floating.ofInt .single)
  | boolean values => values.map fun value => Floating.ofInt .single (if value then 1 else 0)
  | mixed values => values.map fun value => value.toSingle.toOption.getD .nan

/-- The elements as integers; only whole numbers have one. -/
def toIntegers : Elements → Array Int
  | half values => values.map fun value => value.truncate?.getD 0
  | single values => values.map fun value => value.truncate?.getD 0
  | double values => values.map fun value => value.truncate?.getD 0
  | integer _ _ values => values
  | boolean values => values.map fun value => if value then 1 else 0
  | mixed values => values.map fun value => value.toInteger.toOption.getD 0

end Elements

/-- An array of numbers with a shape. -/
structure Tensor where
  shape : List Nat
  elements : Elements

/-- Tensors under names, in order. -/
abbrev NamedTensors := List (String × Tensor)

/-- The text of a list of sizes. -/
def shapeText (shape : List Nat) : String := Text.bracketed (shape.map toString)

namespace Tensor

/-- A tensor of values of thirty-two bits. -/
def ofSingles (shape : List Nat) (values : Array Single) : Tensor := ⟨shape, .single values⟩

/-- The elements that numbers written without a kind get.  Integers stay integers while one kind of
sixty-four bits holds them all; a point among them, or the need for both kinds, makes all of them
values of sixty-four bits; an integer that no kind holds leaves every number as it is. -/
def elementsOfLeaves (leaves : List Value) : Elements :=
  let isBoolean (leaf : Value) : Bool := leaf matches .boolean _
  let isNumber (leaf : Value) : Bool := leaf.number?.isSome
  let isReal (leaf : Value) : Bool := leaf matches .real _
  let whole (leaf : Value) : Int := leaf.toInteger.toOption.getD 0
  let integers := (leaves.map whole).toArray
  let wholes := (leaves.filter fun leaf => !isReal leaf && !isBoolean leaf).map whole
  let doubles := (leaves.map fun leaf => leaf.toDouble.toOption.getD .nan).toArray
  if leaves.isEmpty then .double #[]
  else if !leaves.all isNumber then .mixed leaves.toArray
  else if wholes.any fun n => decide (n < -(2 ^ 63) ∨ 2 ^ 64 ≤ n) then .mixed leaves.toArray
  else if leaves.any isReal then .double doubles
  else if leaves.all isBoolean then
    .boolean (leaves.map fun leaf => leaf.isTruthy).toArray
  else if wholes.all fitsWord then .integer true 64 integers
  else if wholes.any fitsWord then .double doubles
  else .integer false 64 integers

/-- The tensor that nested numbers denote. -/
def ofValue (value : Value) : Except Fault Tensor :=
  value.shape.map fun shape => ⟨shape, elementsOfLeaves value.leaves⟩

end Tensor

/-! ## Token inputs -/

/-- The two inputs of a graph for a sequence of token ids: the ids and a mask of ones. -/
def inputsOfWords (ids : Array Int) : NamedTensors :=
  let shape := [1, ids.size]
  [("input_ids", ⟨shape, .integer true 64 ids⟩),
    ("attention_mask", ⟨shape, .integer true 64 (Array.replicate ids.size 1)⟩)]

/-- The inputs for token ids, all of which have to fit in sixty-four bits. -/
def tokenInputs (ids : List Int) : Except Fault NamedTensors :=
  (ids.mapM wordOfInt).map fun words => inputsOfWords words.toArray

/-- The inputs for token ids given as nested numbers. -/
def tokenInputsOfValue (ids : Value) : Except Fault NamedTensors := do
  let _ ← ids.shape
  return inputsOfWords (← ids.leaves.mapM Value.toWord).toArray

/-- The output of the given name, with shape one by the number of tokens by at least one. -/
def requireOutput (outputs : NamedTensors) (name : String) (length : Int) :
    Except Fault Tensor :=
  match outputs.find? fun output => output.1 == name with
  | none =>
    let names := (outputs.map Prod.fst).mergeSort fun a b => decide (a ≤ b)
    .error (.inference (.missingOutput name names))
  | some (_, tensor) =>
    let refused : Except Fault Tensor :=
      .error (.inference (.outputShape name (shapeText tensor.shape) (toString length)))
    match tensor.shape with
    | [batch, positions, width] =>
      if batch = 1 ∧ (positions : Int) = length ∧ width ≠ 0 then
        .ok (.ofSingles tensor.shape tensor.elements.toSingles)
      else refused
    | _ => refused

end RecallChat
