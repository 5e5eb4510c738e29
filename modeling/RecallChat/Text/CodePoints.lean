/-!
# Code points

A text as the list of its code points.  Among them there may be surrogates, for which no character
stands; a text without surrogates is the same as a string (`toString?_ofString`).
-/

namespace RecallChat.Text

set_option autoImplicit false

/-- A text as its code points. -/
abbrev CodePoints := List Nat

namespace CodePoints

/-- Whether a code point is a surrogate. -/
def isSurrogate (point : Nat) : Bool := decide (0xd800 ≤ point ∧ point < 0xe000)

/-- The code points of a string. -/
def ofString (text : String) : CodePoints := text.toList.map Char.toNat

/-- The character of a code point; the replacement character stands for a surrogate. -/
def character (point : Nat) : Char :=
  if isSurrogate point then '\ufffd' else Char.ofNat point

/-- The string of code points, with the replacement character for every surrogate. -/
def replaced (points : CodePoints) : String := String.ofList (points.map character)

/-- The string of code points, if there is no surrogate among them. -/
def toString? (points : CodePoints) : Option String :=
  if points.any isSurrogate then none else some (replaced points)

theorem isSurrogate_toNat (c : Char) : isSurrogate c.toNat = false := by
  have h : c.toNat < 0xd800 ∨ 0xdfff < c.toNat ∧ c.toNat < 0x110000 := c.valid
  simp only [isSurrogate, decide_eq_false_iff_not]
  omega

theorem character_toNat (c : Char) : character c.toNat = c := by
  simp [character, isSurrogate_toNat, Char.ofNat_toNat]

/-- A string is what its code points denote. -/
theorem toString?_ofString (text : String) : toString? (ofString text) = some text := by
  simp [toString?, replaced, ofString, Function.comp_def, character_toNat, isSurrogate_toNat]

end CodePoints

end RecallChat.Text
