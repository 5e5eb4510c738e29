import RecallChat.Text.CodePoints
import RecallChat.Text.LowerCase
import RecallChat.Text.WordCase

/-!
# Letter case

Lower-casing goes letter by letter, with two exceptions: the dotted I becomes an i and a dot above,
and a sigma at the end of a word becomes a final sigma.  Upper-casing is needed for names of levels
only, which are ASCII; so it has the ASCII map with the two further letters whose capitals are
ASCII, the dotless i and the long s.
-/

namespace RecallChat.Text

set_option autoImplicit false

/-! ## Lower case -/

/-- Whether a sigma stands at the end of a word: a letter with case comes before it and none after
it, not counting what is passed over.  What comes before is given backwards. -/
def isFinalSigma (before after : CodePoints) : Bool :=
  let isNext (points : CodePoints) : Bool :=
    match points.find? fun point => !isPassedOver point with
    | some point => isCased point
    | none => false
  isNext before && !isNext after

/-- The lower-case form of a code point at its place. -/
def lowerAt (before : CodePoints) (point : Nat) (after : CodePoints) : CodePoints :=
  if point = 0x130 then [0x69, 0x307]
  else if point = 0x3a3 ∧ isFinalSigma before after then [0x3c2]
  else [lowerPoint point]

/-- The lower-case form of the rest of a text, after what comes before it backwards. -/
def lowerRest : CodePoints → CodePoints → CodePoints
  | _, [] => []
  | before, point :: after => lowerAt before point after ++ lowerRest (point :: before) after

/-- Code points in lower case. -/
def CodePoints.lowered (points : CodePoints) : CodePoints := lowerRest [] points

/-- A text in lower case. -/
def lowered (text : String) : String := (CodePoints.ofString text).lowered.replaced

/-! ## Upper case -/

/-- The upper case of a character, as far as it can make an ASCII letter. -/
def upperCase (c : Char) : Char :=
  if c = '\u0131' then 'I' else if c = '\u017f' then 'S' else c.toUpper

/-- A text in upper case, for comparison with a name in ASCII capitals. -/
def uppered (text : String) : String := String.ofList (text.toList.map upperCase)

end RecallChat.Text
