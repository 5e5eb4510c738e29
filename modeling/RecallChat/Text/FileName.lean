import RecallChat.Text.CodePoints

/-!
# Names of files as texts

The name of a file is made of bytes.  It is read as a text in which a byte that belongs to no
character is an escape, one of the surrogates from U+DC80 on (`isEscape`); every other surrogate
stands for nothing that a name can have (`isUnnameable`).  Escapes beside each other can spell a
character, and then they lead to the file with that character in its name (`fileName`).  Strings
have no escapes, so they are the names of their files (`fileName_ofString`).
-/

namespace RecallChat.Text.CodePoints

set_option autoImplicit false

/-- Whether a code point stands for a byte that belongs to no character. -/
def isEscape (point : Nat) : Bool := decide (0xdc80 ≤ point ∧ point ≤ 0xdcff)

/-- Whether a code point cannot stand in the name of a file. -/
def isUnnameable (point : Nat) : Bool := isSurrogate point && !isEscape point

/-- The number of bytes that a text has in the name of a file. -/
def byteSize (points : CodePoints) : Nat :=
  points.foldl (fun size point =>
    size + if isEscape point then 1 else (character point).utf8Size) 0

/-- The character that escapes at the front of a text spell, if they spell one. -/
def spelled? (points : CodePoints) : Option Char :=
  let escapes := (points.take 4).takeWhile isEscape
  (ByteArray.mk (escapes.map fun point => UInt8.ofNat (point - 0xdc00)).toArray).utf8DecodeChar? 0

/-- A text with the characters that its escapes spell; some code points at the front can belong to a
character that was spelled already. -/
def spell : Nat → CodePoints → CodePoints
  | _, [] => []
  | taken + 1, _ :: rest => spell taken rest
  | 0, point :: rest =>
    match spelled? (point :: rest) with
    | some c => c.toNat :: spell (c.utf8Size - 1) rest
    | none => point :: spell 0 rest

/-- The name of the file that a name leads to. -/
def fileName (points : CodePoints) : CodePoints := spell 0 points

/-- A name without escapes is that of its file. -/
theorem fileName_of_noEscape {points : CodePoints}
    (plain : ∀ point ∈ points, isEscape point = false) : fileName points = points := by
  rw [fileName]
  induction points with
  | nil => rfl
  | cons point rest ih =>
      obtain ⟨here, others⟩ := List.forall_mem_cons.mp plain
      have none : spelled? (point :: rest) = none := by
        rw [spelled?, List.take_succ_cons, List.takeWhile_cons_of_neg (by simp [here])]
        rfl
      rw [spell, none]
      exact congrArg (point :: ·) (ih others)

theorem isEscape_toNat (c : Char) : isEscape c.toNat = false := by
  have outside := isSurrogate_toNat c
  simp only [isSurrogate, isEscape, decide_eq_false_iff_not] at outside ⊢
  omega

/-- A string is the name of its file. -/
theorem fileName_ofString (text : String) : fileName (ofString text) = ofString text :=
  fileName_of_noEscape (List.forall_mem_map.mpr fun c _ => isEscape_toNat c)

/-- Two escapes that spell a character lead to the file with that character in its name. -/
example : fileName [0x61, 0xdcc3, 0xdca9, 0xdcff] = [0x61, 0xe9, 0xdcff] := by decide +kernel

end RecallChat.Text.CodePoints
