import RecallChat.Text.Blank
import RecallChat.Text.Casing
import RecallChat.Wording

/-!
# Capability tiers

A tier is one of five steps of memory capacity.  `Tier.forMemory` maps a number of gigabytes to its
tier: the bounds are one, two, four and eight, each excluded from the tier below it.  `Tier.parse`
reads a name without regard to case and to blanks around it.
-/

namespace RecallChat

set_option autoImplicit false

/-- A step of memory capacity. -/
inductive Tier where
  | micro
  | small
  | medium
  | large
  | huge
  deriving DecidableEq, Repr, Inhabited

namespace Tier

/-- The tiers, smallest first. -/
def all : List Tier := [.micro, .small, .medium, .large, .huge]

/-- The name of a tier, which is also the name of its directory. -/
def name : Tier → String
  | .micro => "micro"
  | .small => "small"
  | .medium => "medium"
  | .large => "large"
  | .huge => "macro"

/-- The bounds between tiers in gigabytes, ascending, each with the tier below it. -/
def bounds : List (Nat × Tier) := [(1, .micro), (2, .small), (4, .medium), (8, .large)]

/-- The tier of a memory size in gigabytes. -/
def forMemory (gigabytes : Number) : Tier :=
  match bounds.find? fun bound => gigabytes.less (.integer bound.1) with
  | some bound => bound.2
  | none => .huge

/-- The tier with the given name, in any case and with blanks around it. -/
def ofName? (name : String) : Option Tier :=
  all.find? fun tier => tier.name == Text.lowered (Text.trimmed name)

/-- The tier that a configured name denotes. -/
def parse (name : Value) : Except Fault Tier := do
  let text ← name.inWords
  match ofName? text with
  | some tier => return tier
  | none => throw (.config (.unknownTier text (all.map Tier.name)))

end Tier

end RecallChat
