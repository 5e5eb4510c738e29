import RecallChat.Text.Pattern
import RecallChat.Yaml.Node

/-!
# Implicit kinds

A plain scalar without a tag is of the kind whose form it has: a truth value, a number, a day or
moment, nothing at all, or, if it has none of these forms, a text.  No text has two of the forms.
-/

namespace RecallChat.Yaml

set_option autoImplicit false

open Text Pattern

/-! ## Forms -/

/-- Truth values. -/
def boolForm : Pattern :=
  words ["yes", "Yes", "YES", "no", "No", "NO", "true", "True", "TRUE", "false", "False", "FALSE",
    "on", "On", "ON", "off", "Off", "OFF"]

/-- A sign that may be left out. -/
def sign : Pattern := optional (oneOf "+-")

/-- A digit or an underscore. -/
def spacedDigit : Pattern := oneOf "0123456789_"

/-- A digit with more digits and underscores after it. -/
def spacedDigits : Pattern := both digit (many spacedDigit)

/-- Parts in base sixty, each after a colon. -/
def sixtieths : Pattern :=
  atLeastOne (sequence [oneOf ":", optional (oneOf "012345"), digit])

/-- Whole numbers: in base two, eight, ten, sixteen or sixty. -/
def intForm : Pattern :=
  both sign (anyOf
    [sequence [exactly "0b", atLeastOne (oneOf "01_")],
      sequence [exactly "0", atLeastOne (oneOf "01234567_")],
      exactly "0",
      sequence [oneOf "123456789", many spacedDigit],
      sequence [exactly "0x", atLeastOne (oneOf "0123456789abcdefABCDEF_")],
      sequence [oneOf "123456789", many spacedDigit, sixtieths]])

/-- An exponent, whose sign may not be left out. -/
def exponent : Pattern := sequence [oneOf "eE", oneOf "+-", atLeastOne digit]

/-- Numbers with a point. -/
def floatForm : Pattern :=
  anyOf
    [sequence [sign, spacedDigits, exactly ".", many spacedDigit, optional exponent],
      sequence [exactly ".", spacedDigits, optional exponent],
      sequence [sign, spacedDigits, sixtieths, exactly ".", many spacedDigit],
      sequence [sign, exactly ".", words ["inf", "Inf", "INF"]],
      sequence [exactly ".", words ["nan", "NaN", "NAN"]]]

/-- So many digits. -/
def digits (count : Nat) : Pattern := sequence (List.replicate count digit)

/-- One digit or two. -/
def oneOrTwo : Pattern := both digit (optional digit)

/-- Spaces and tabs. -/
def blanks : Pattern := many (oneOf " \t")

/-- An offset from universal time. -/
def zoneForm : Pattern :=
  both blanks (either (exactly "Z")
    (sequence [oneOf "+-", oneOrTwo, optional (both (exactly ":") (digits 2))]))

/-- Days, and moments of a day. -/
def timestampForm : Pattern :=
  either (sequence [digits 4, exactly "-", digits 2, exactly "-", digits 2])
    (sequence [digits 4, exactly "-", oneOrTwo, exactly "-", oneOrTwo,
      either (oneOf "Tt") (atLeastOne (oneOf " \t")), oneOrTwo, exactly ":", digits 2,
      exactly ":", digits 2, optional (both (exactly ".") (many digit)), optional zoneForm])

/-- The forms of the kinds. -/
def forms : List (String × Pattern) :=
  [("bool", boolForm), ("float", floatForm), ("int", intForm), ("merge", exactly "<<"),
    ("null", words ["~", "null", "Null", "NULL"]), ("timestamp", timestampForm),
    ("value", exactly "="), ("yaml", oneOf "!&*")]

/-! ## Kinds -/

/-- A text without one line feed at its end. -/
def withoutFinalBreak (cs : List Char) : List Char :=
  if cs.getLast? = some '\n' then cs.dropLast else cs

/-- The tag of an untagged plain scalar. -/
def implicitTag (points : CodePoints) : String :=
  match points.toString? with
  | none => standardTag "str"
  | some text =>
    if text.isEmpty then standardTag "null"
    else
      let cs := withoutFinalBreak text.toList
      match forms.find? fun form => form.2.fits cs with
      | some form => standardTag form.1
      | none => standardTag "str"

end RecallChat.Yaml
