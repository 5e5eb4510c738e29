/-!
# Dates and moments

Days of the proleptic Gregorian calendar from year 1 to 9999, and moments of a day with an optional
offset from universal time, with their two written forms: the standard one (`2020-01-02`,
`2020-01-02T03:04:05.000006+01:00`) and the descriptive one used where a value is quoted.
-/

namespace RecallChat

set_option autoImplicit false

/-- A day of the calendar. -/
structure Date where
  year : Nat
  month : Nat
  day : Nat
  deriving DecidableEq, Repr

/-- A moment of a day; the offset from universal time is in seconds. -/
structure Moment where
  date : Date
  hour : Nat
  minute : Nat
  second : Nat
  microsecond : Nat
  offset : Option Int
  deriving DecidableEq, Repr

namespace Date

/-- Whether a year has a leap day. -/
def isLeapYear (year : Nat) : Bool := year % 4 == 0 && (year % 100 != 0 || year % 400 == 0)

/-- The number of days of a month. -/
def daysInMonth (year month : Nat) : Nat :=
  if month = 2 then if isLeapYear year then 29 else 28
  else if month = 4 ∨ month = 6 ∨ month = 9 ∨ month = 11 then 30
  else 31

/-- The day with the given numbers, if the calendar has it. -/
def ofNumbers? (year month day : Nat) : Option Date :=
  if 1 ≤ year ∧ year ≤ 9999 ∧ 1 ≤ month ∧ month ≤ 12 ∧ 1 ≤ day ∧ day ≤ daysInMonth year month then
    some ⟨year, month, day⟩
  else none

/-- The number of days since the first day of year 1. -/
def dayNumber (date : Date) : Nat :=
  let before := date.year - 1
  let months := (List.range (date.month - 1)).map fun month => daysInMonth date.year (month + 1)
  before * 365 + before / 4 - before / 100 + before / 400 + months.foldl (· + ·) 0 + date.day - 1

/-- A natural with leading zeros up to a width. -/
def padded (width n : Nat) : String :=
  let digits := Nat.toDigits 10 n
  String.ofList (List.replicate (width - digits.length) '0' ++ digits)

/-- The standard form. -/
def standard (date : Date) : String :=
  padded 4 date.year ++ "-" ++ padded 2 date.month ++ "-" ++ padded 2 date.day

/-- The descriptive form. -/
def described (date : Date) : String :=
  "datetime.date(" ++ ", ".intercalate ([date.year, date.month, date.day].map toString) ++ ")"

end Date

namespace Moment

/-- An offset as hours and minutes, and seconds when there are any. -/
def offsetText (offset : Int) : String :=
  let seconds := offset.natAbs
  (if offset < 0 then "-" else "+") ++ Date.padded 2 (seconds / 3600) ++ ":" ++
    Date.padded 2 (seconds / 60 % 60) ++
    (if seconds % 60 = 0 then "" else ":" ++ Date.padded 2 (seconds % 60))

/-- The standard form, with the given separator between day and time. -/
def standard (separator : String) (moment : Moment) : String :=
  moment.date.standard ++ separator ++ Date.padded 2 moment.hour ++ ":" ++
    Date.padded 2 moment.minute ++ ":" ++ Date.padded 2 moment.second ++
    (if moment.microsecond = 0 then "" else "." ++ Date.padded 6 moment.microsecond) ++
    (match moment.offset with
      | none => ""
      | some offset => offsetText offset)

/-- An offset in the descriptive form: whole days below zero, then seconds. -/
def offsetDescribed (offset : Int) : String :=
  if offset = 0 then "datetime.timezone.utc"
  else
    let days := offset.fdiv 86400
    let seconds := offset.fmod 86400
    let parts := (if days = 0 then [] else ["days=" ++ toString days]) ++
      (if seconds = 0 then [] else ["seconds=" ++ toString seconds])
    "datetime.timezone(datetime.timedelta(" ++ ", ".intercalate parts ++ "))"

/-- The descriptive form; seconds and microseconds are left out when they are zero. -/
def described (moment : Moment) : String :=
  let date := moment.date
  let fields := [date.year, date.month, date.day, moment.hour, moment.minute] ++
    (if moment.microsecond ≠ 0 then [moment.second, moment.microsecond]
      else if moment.second ≠ 0 then [moment.second] else [])
  "datetime.datetime(" ++ ", ".intercalate (fields.map toString ++
    (match moment.offset with
      | none => []
      | some offset => ["tzinfo=" ++ offsetDescribed offset])) ++ ")"

/-- The number of microseconds since the start of year 1, in universal time where known. -/
def microseconds (moment : Moment) : Int :=
  let seconds : Int :=
    (moment.date.dayNumber * 86400 + moment.hour * 3600 + moment.minute * 60 + moment.second : Nat)
  (seconds - moment.offset.getD 0) * 1000000 + moment.microsecond

end Moment

end RecallChat
