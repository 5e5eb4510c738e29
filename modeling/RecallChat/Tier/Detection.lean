import RecallChat.Action
import RecallChat.Tier

/-!
# Detecting the tier

The tier follows from the host's total memory.  A reading can be anything: a reader may fail or may
return a value that is no believable size.  `detect` then warns and assumes the smallest tier.  A
`Selector` asks the reader once and keeps the answer; an override keeps it from asking at all.
-/

namespace RecallChat.Tier

set_option autoImplicit false

variable {σ : Type}

/-- The name under which detection logs. -/
def logSource : String := "tierchat.tier"

/-- The number of bytes of a gigabyte. -/
def bytesPerGigabyte : Nat := 2 ^ 30

/-! ## The total memory of the host -/

/-- Whether a fault of the memory probe means that the memory cannot be read. -/
def isUnreadable : Fault → Bool
  | .outside kind _ =>
    kind.isSystem || kind.isRuntime || kind == .memoryProbe || kind == .missingAttribute
  | _ => false

/-- A quotient of an integer by the bytes of a gigabyte, rounded once. -/
def gigabytesOfInt (n : Int) : Except Fault Double :=
  let rounded := Floating.round .double (decide (n < 0)) n.natAbs (-30)
  if rounded.isFinite then .ok rounded
  else .error (.tooLarge "number of bytes too large")

/-- A believable reading in bytes as gigabytes. -/
def gigabytes (total : Value) : Except Fault Double :=
  if !total.isTruthy then .error (.detection (.unbelievable total.shown))
  else
    match total.number? with
    | none =>
      .error (.wrongType
        ("'<=' not supported between instances of '" ++ total.kindName ++ "' and 'int'"))
    | some number =>
      if number.atMost (.integer 0) then .error (.detection (.unbelievable total.shown))
      else
        match number with
        | .integer n => gigabytesOfInt n
        | .real x => .ok (x.div (Floating.ofInt .double bytesPerGigabyte))

/-- The host's total memory in gigabytes, by a probe that returns the number of bytes. -/
def readMemory (probe : Action σ Value) : Action σ Double := do
  match ← probe.attempt with
  | .ok total => Action.ofExcept (gigabytes total)
  | .error fault =>
    if isUnreadable fault then throw (.detection (.unreadable fault.text)) else throw fault

/-! ## Detection -/

/-- Whether a fault of the reader is answered with the smallest tier. -/
def isTolerated : Fault → Bool
  | .detection _ => true
  | .misuse _ => true
  | .outside kind _ => kind.isSystem || kind.isRuntime || kind.isValue || kind == .wrongType
  | _ => false

/-- A reading in gigabytes as a positive finite number. -/
def believable (reading : Value) : Except Fault Number :=
  let refused : Except Fault Number := .error (.detection (.unbelievable reading.shown))
  match reading, reading.number? with
  | .null, _ => refused
  | _, none => .error (.wrongType ("must be real number, not " ++ reading.kindName))
  | _, some number =>
    match number.toReal? with
    | none => .error (.tooLarge "number of gigabytes too large")
    | some x =>
      if !x.isFinite || number.atMost (.integer 0) then refused else .ok number

/-- A size with two decimal places. -/
def sizeText (number : Number) : String :=
  match number.toReal? with
  | some x => x.fixedTwo
  | none => number.shown

/-- The tier of the host by a reader of gigabytes. -/
def detect (reader : Action σ Value) : Action σ Tier := do
  let reading ← Action.attempt do Action.ofExcept (believable (← reader))
  match reading with
  | .ok number =>
    let tier := forMemory number
    Action.log .info logSource
      (.ofString ("Detected system memory: " ++ sizeText number ++ " GB, selecting tier '" ++
        tier.name ++ "'"))
    return tier
  | .error fault =>
    if isTolerated fault then
      Action.log .warning logSource
        (.ofString (fault.text ++ "; assuming tier '" ++ micro.name ++ "'"))
      return micro
    else throw fault

/-- A reader of gigabytes made from a probe of bytes. -/
def probeReader (probe : Action σ Value) : Action σ Value :=
  (readMemory probe) >>= fun gigabytes => pure (.real gigabytes)

/-! ## The selector -/

/-- A tier that is found at most once. -/
structure Selector where
  known : Option Tier

namespace Selector

/-- A selector; an override is announced and makes detection unnecessary. -/
def make (override : Option Tier) : Action σ Selector := do
  if let some tier := override then
    Action.log .info logSource (.ofString ("Using configured tier '" ++ tier.name ++ "'"))
  return ⟨override⟩

/-- The tier, detected on first use, and the selector that knows it. -/
def detect (selector : Selector) (reader : Action σ Value) : Action σ (Tier × Selector) :=
  match selector.known with
  | some tier => pure (tier, selector)
  | none => do
    let tier ← Tier.detect reader
    return (tier, ⟨some tier⟩)

end Selector

end RecallChat.Tier
