import RecallChat.Value
import RecallChat.Yaml.Cursor

/-!
# Days and moments in scalars

A day is a year of four digits, a month and a day.  A moment adds, after a `T` or space, the hour,
minute and second, a fraction of a second, and an offset from universal time.
-/

namespace RecallChat.Yaml

set_option autoImplicit false

/-- Some digits at the front of a text, at most so many, and what follows them. -/
def fewDigits (least most : Nat) (cs : List Char) : Option (Nat × List Char) :=
  let digits := (cs.take most).takeWhile Char.isDigit
  if digits.length < least then none
  else
    some (digits.foldl (fun value digit => value * 10 + (digit.toNat - 48)) 0,
      cs.drop digits.length)

/-- A character at the front of a text, and what follows it. -/
def after? (c : Char) : List Char → Option (List Char)
  | d :: rest => if d = c then some rest else none
  | [] => none

/-- The numbers of a moment. -/
structure MomentParts where
  hour : Nat
  minute : Nat
  second : Nat
  microsecond : Nat
  offset : Option Int

/-- The fraction of a second in microseconds; further digits count for nothing. -/
def fractionPart (cs : List Char) : Nat × List Char :=
  match cs with
  | '.' :: rest =>
    let digits := rest.takeWhile Char.isDigit
    let kept := digits.take 6
    let value := kept.foldl (fun value digit => value * 10 + (digit.toNat - 48)) 0
    (value * 10 ^ (6 - kept.length), rest.drop digits.length)
  | other => (0, other)

/-- Whether a text is at its end, but for one line feed. -/
def isFinal (cs : List Char) : Bool := cs.isEmpty || cs == ['\n']

/-- The offset of a moment in seconds, up to the end of the text. -/
def offsetPart (cs : List Char) : Option (Option Int) :=
  if isFinal cs then some none
  else
    match cs.dropWhile fun c => c == ' ' || c == '\t' with
    | 'Z' :: rest => if isFinal rest then some (some 0) else none
    | c :: rest => do
      let sign : Int ← if c = '+' then some 1 else if c = '-' then some (-1) else none
      let (hours, rest) ← fewDigits 1 2 rest
      let (minutes, rest) ←
        match rest with
        | ':' :: more => fewDigits 2 2 more
        | other => some (0, other)
      if isFinal rest then some (some (sign * ((hours * 60 + minutes) * 60 : Nat))) else none
    | [] => none

/-- The time of day after a date. -/
def timePart (cs : List Char) : Option MomentParts := do
  let rest ←
    match cs with
    | 'T' :: rest | 't' :: rest => some rest
    | other =>
      let rest := other.dropWhile fun c => c == ' ' || c == '\t'
      if rest.length < other.length then some rest else none
  let (hour, rest) ← fewDigits 1 2 rest
  let (minute, rest) ← fewDigits 2 2 (← after? ':' rest)
  let (second, rest) ← fewDigits 2 2 (← after? ':' rest)
  let (microsecond, rest) := fractionPart rest
  return ⟨hour, minute, second, microsecond, ← offsetPart rest⟩

/-- The numbers of a date, and of a time if there is one. -/
def timestampParts (cs : List Char) : Option ((Nat × Nat × Nat) × Option MomentParts) := do
  let (year, rest) ← fewDigits 4 4 cs
  let (month, rest) ← fewDigits 1 2 (← after? '-' rest)
  let (day, rest) ← fewDigits 1 2 (← after? '-' rest)
  if isFinal rest then return ((year, month, day), none)
  else return ((year, month, day), some (← timePart rest))

/-- A moment, if the clock and the calendar have it. -/
def momentOf? (date : Date) (parts : MomentParts) : Option Moment :=
  if parts.hour < 24 ∧ parts.minute < 60 ∧ parts.second < 60 ∧
      ((parts.offset.getD 0).natAbs < 86400) then
    some ⟨date, parts.hour, parts.minute, parts.second, parts.microsecond, parts.offset⟩
  else none

/-- The day or moment that a scalar denotes. -/
def timestamp (cs : List Char) : Reading Value :=
  match timestampParts cs with
  | none => .error (.fault (.outside .missingAttribute "not a timestamp"))
  | some ((year, month, day), time) =>
    let value := (Date.ofNumbers? year month day).bind fun date =>
      match time with
      | none => some (.date date)
      | some parts => (momentOf? date parts).map Value.moment
    match value with
    | some value => .ok value
    | none => .error (.fault (.wrongValue "no such time"))

end RecallChat.Yaml
