/-!
# Tables of code point ranges

A property of characters is stored as runs of code points in ascending order. A large table
gathers its runs into blocks, so that a lookup passes over whole blocks before it searches one.
-/

namespace LexTable.Unicode

/-- The code points from `first` to `last`, all with the property value `value`. -/
structure Run (α : Type) where
  first : Nat
  last : Nat
  value : α

/-- Ascending runs, none of which goes beyond `last`. -/
structure Block (α : Type) where
  last : Nat
  runs : List (Run α)

abbrev RangeTable (α : Type) := List (Block α)

/-- The value of the first run that reaches up to `code`, if that run holds it. -/
def Run.find? {α : Type} (code : Nat) : List (Run α) → Option α
  | [] => none
  | run :: runs =>
    if code ≤ run.last then
      if run.first ≤ code then some run.value else none
    else
      Run.find? code runs

def RangeTable.find? {α : Type} (code : Nat) : RangeTable α → Option α
  | [] => none
  | block :: blocks =>
    if code ≤ block.last then Run.find? code block.runs else RangeTable.find? code blocks

/-- Membership in a set given by ascending inclusive ranges. -/
def inRanges (code : Nat) : List (Nat × Nat) → Bool
  | [] => false
  | (first, last) :: ranges => if code ≤ last then first ≤ code else inRanges code ranges

end LexTable.Unicode
