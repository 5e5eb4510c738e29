import RecallChat.Text.FileName

/-!
# Paths

A path is a root of no, one or two slashes and a list of components, none of them empty or a single
dot.  Reading a text as a path (`Path.ofPoints`) drops the pieces that are empty or a dot and keeps
`..`; writing it (`Path.points`) puts one slash between the components.  Texts are taken by their
code points, because a path can have surrogates in it.  `Path.WellFormed` says what holds of every
path that a text denotes.

A path from the root can also be written without `..` (`Path.settledPoints`).
-/

namespace RecallChat

open RecallChat.Text

set_option autoImplicit false

/-- A path: its leading slashes and its components. -/
structure Path where
  slashes : Nat
  parts : List CodePoints
  deriving DecidableEq, Repr, Inhabited

namespace Path

/-! ## Pieces -/

/-- The slash, between components. -/
def slash : Nat := 0x2f

/-- The dot. -/
def dot : Nat := 0x2e

/-- The component that leads back up. -/
def up : CodePoints := [dot, dot]

/-- Whether a piece of a text between its slashes counts as a component. -/
def isComponent (piece : CodePoints) : Bool := !piece.isEmpty && piece != [dot]

/-- The number of slashes of the root: two leading slashes are kept, three or more are one. -/
def rootSlashes (points : CodePoints) : Nat :=
  let leading := (points.takeWhile (· == slash)).length
  if leading = 2 then 2 else min leading 1

/-- The components that are kept with one more; `..` takes the one before it away, if there is
one. -/
def keep (kept : List CodePoints) (piece : CodePoints) : List CodePoints :=
  if piece = up then kept.dropLast else kept ++ [piece]

/-! ## Reading and writing -/

/-- The path that a text denotes. -/
def ofPoints (points : CodePoints) : Path :=
  ⟨rootSlashes points, (points.splitOn slash).filter isComponent⟩

/-- The path that a string denotes. -/
def ofText (text : String) : Path := ofPoints (.ofString text)

/-- A path as text; the empty path is a dot. -/
def points (path : Path) : CodePoints :=
  if path.slashes = 0 ∧ path.parts = [] then [dot]
  else List.replicate path.slashes slash ++ [slash].intercalate path.parts

/-- A path as it shows; the replacement character stands for a surrogate. -/
def text (path : Path) : String := path.points.replaced

instance : ToString Path := ⟨text⟩

/-- What holds of the paths that a text can denote: at most two slashes, and components that are
neither empty nor a dot and hold no slash. -/
def WellFormed (path : Path) : Prop :=
  path.slashes ≤ 2 ∧ ∀ part ∈ path.parts, isComponent part = true ∧ slash ∉ part

/-- Whether a path starts at the root. -/
def isAbsolute (path : Path) : Bool := path.slashes != 0

/-- The last component, empty for a bare root and for the empty path. -/
def name (path : Path) : CodePoints := path.parts.getLast?.getD []

/-- The path without its last component. -/
def parent (path : Path) : Path := ⟨path.slashes, path.parts.dropLast⟩

/-- The second path as seen from the first; an absolute path replaces it. -/
def join (base path : Path) : Path :=
  if path.isAbsolute then path else ⟨base.slashes, base.parts ++ path.parts⟩

/-- A path with one more text below it. -/
def child (base : Path) (name : CodePoints) : Path := base.join (ofPoints name)

/-- The text of a path from the root, written without `..`. -/
def settledPoints (points : CodePoints) : CodePoints :=
  let pieces := (points.splitOn slash).filter isComponent
  (Path.mk (rootSlashes points) (pieces.foldl keep [])).points

end Path

end RecallChat
