import LexTable.Unicode.Property

/-!
# Assertions

An assertion consumes nothing. Whether it holds at a place depends on the characters on the two
sides of that place, of which either may be missing.
-/

namespace LexTable

inductive Look where
  | textStart
  | textEnd
  | lineStart
  | lineEnd
  | wordBoundary
  | notWordBoundary
  | wordStart
  | wordEnd
  | wordStartHalf
  | wordEndHalf
  deriving DecidableEq

namespace Look

def isWord (side : Option Char) : Bool :=
  side.any Unicode.isWordCharacter

def isLineEdge (side : Option Char) : Bool :=
  side.all (· == '\n')

def holds (look : Look) (before after : Option Char) : Bool :=
  match look with
  | textStart => before.isNone
  | textEnd => after.isNone
  | lineStart => isLineEdge before
  | lineEnd => isLineEdge after
  | wordBoundary => isWord before != isWord after
  | notWordBoundary => isWord before == isWord after
  | wordStart => !isWord before && isWord after
  | wordEnd => isWord before && !isWord after
  | wordStartHalf => !isWord before
  | wordEndHalf => !isWord after

end Look

end LexTable
