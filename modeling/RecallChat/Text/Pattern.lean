/-!
# Patterns of characters

Regular patterns over characters and when a text fits one.  `after` is the pattern of what may
follow a first character, so a text fits when the pattern left after all its characters accepts the
empty text.  Main statements: `fits_one` and `fits_either` say what a class and a choice mean.
-/

namespace RecallChat.Text

set_option autoImplicit false

/-- A regular pattern. -/
inductive Pattern where
  | nothing
  | empty
  | one (accepts : Char → Bool)
  | both (first second : Pattern)
  | either (left right : Pattern)
  | many (inner : Pattern)

namespace Pattern

/-- Whether the empty text fits. -/
def acceptsEmpty : Pattern → Bool
  | nothing => false
  | empty => true
  | one _ => false
  | both first second => first.acceptsEmpty && second.acceptsEmpty
  | either left right => left.acceptsEmpty || right.acceptsEmpty
  | many _ => true

/-- One pattern after another, left out where that is the same. -/
def join : Pattern → Pattern → Pattern
  | nothing, _ => nothing
  | empty, second => second
  | first, second => both first second

/-- One pattern or another, left out where that is the same. -/
def choose : Pattern → Pattern → Pattern
  | nothing, right => right
  | left, nothing => left
  | left, right => either left right

/-- The pattern of what may follow a character. -/
def after (c : Char) : Pattern → Pattern
  | nothing => nothing
  | empty => nothing
  | one accepts => if accepts c then empty else nothing
  | both first second =>
    if first.acceptsEmpty then choose (join (after c first) second) (after c second)
    else join (after c first) second
  | either left right => choose (after c left) (after c right)
  | many inner => join (after c inner) (many inner)

/-- Whether a text fits a pattern. -/
def fits (pattern : Pattern) (cs : List Char) : Bool :=
  (cs.foldl (fun pattern c => after c pattern) pattern).acceptsEmpty

/-! ## Building patterns -/

/-- One character of several. -/
def oneOf (chars : String) : Pattern := one fun c => chars.toList.contains c

/-- An ASCII digit. -/
def digit : Pattern := one Char.isDigit

/-- Several patterns in a row. -/
def sequence : List Pattern → Pattern
  | [] => empty
  | [last] => last
  | first :: rest => both first (sequence rest)

/-- Any of several patterns. -/
def anyOf : List Pattern → Pattern
  | [] => nothing
  | [last] => last
  | first :: rest => either first (anyOf rest)

/-- Exactly a text. -/
def exactly (text : String) : Pattern := sequence (text.toList.map fun c => one (· == c))

/-- Any of several texts. -/
def words (texts : List String) : Pattern := anyOf (texts.map exactly)

/-- A pattern or nothing at all. -/
def optional (pattern : Pattern) : Pattern := either pattern empty

/-- A pattern once or more often. -/
def atLeastOne (pattern : Pattern) : Pattern := both pattern (many pattern)

/-! ## Meaning -/

/-- A character fits a class exactly if it is in it. -/
theorem fits_one (accepts : Char → Bool) (c : Char) : (one accepts).fits [c] = accepts c := by
  cases h : accepts c <;> simp [fits, after, h, acceptsEmpty]

/-- No text fits the pattern of nothing. -/
theorem fits_nothing (cs : List Char) : nothing.fits cs = false := by
  induction cs with
  | nil => rfl
  | cons c rest ih => exact ih

/-- A text fits a pattern exactly if its rest fits what may follow its first character. -/
theorem fits_cons (pattern : Pattern) (c : Char) (rest : List Char) :
    pattern.fits (c :: rest) = (after c pattern).fits rest := rfl

/-- A text fits one pattern or another exactly if it fits one of them. -/
theorem fits_either (left right : Pattern) (cs : List Char) :
    (either left right).fits cs = (left.fits cs || right.fits cs) := by
  induction cs generalizing left right with
  | nil => rfl
  | cons c rest ih =>
    show (choose (after c left) (after c right)).fits rest = _
    rw [fits_cons left, fits_cons right]
    generalize after c left = first
    generalize after c right = second
    unfold choose
    split
    · simp [fits_nothing]
    · simp [fits_nothing]
    · exact ih _ _

end Pattern

end RecallChat.Text
