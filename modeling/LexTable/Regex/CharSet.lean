import LexTable.Unicode.CaseMapping

/-!
# Sets of characters

The sets that patterns denote: single characters, ranges, properties and their combinations. A
set is kept as it was written and is asked for membership only.
-/

namespace LexTable

open Unicode

/-- The properties that a pattern can name. -/
inductive Property where
  | categories (gs : List GeneralCategory)
  | alphabetic
  | lowercase
  | uppercase
  | cased
  | caseIgnorable
  | graphemeExtend
  | joinControl
  | whiteSpace
  | digit
  | word
  deriving DecidableEq

def Property.holds : Property → Char → Bool
  | categories gs, c => gs.contains (category c)
  | alphabetic, c => isAlphabetic c
  | lowercase, c => isLowercase c
  | uppercase, c => isUppercase c
  | cased, c => isCased c
  | caseIgnorable, c => isCaseIgnorable c
  | graphemeExtend, c => isGraphemeExtend c
  | joinControl, c => isJoinControl c
  | whiteSpace, c => isWhiteSpace c
  | digit, c => isDecimalDigit c
  | word, c => isWordCharacter c

inductive CharSet where
  | none
  | single (c : Char)
  | range (first last : Char)
  | property (p : Property)
  /-- What differs from a member by case only. -/
  | folded (s : CharSet)
  | compl (s : CharSet)
  | union (s t : CharSet)
  | inter (s t : CharSet)
  | symmDiff (s t : CharSet)
  deriving DecidableEq

namespace CharSet

def contains : CharSet → Char → Bool
  | none, _ => false
  | single d, c => c == d
  | range first last, c => first ≤ c && c ≤ last
  | property p, c => p.holds c
  | folded s, c => (caseVariants c).any fun d => s.contains d
  | compl s, c => !s.contains c
  | union s t, c => s.contains c || t.contains c
  | inter s t, c => s.contains c && t.contains c
  | symmDiff s t, c => s.contains c != t.contains c

def any : CharSet := compl none

def ascii : CharSet := range '\x00' '\x7f'

def diff (s t : CharSet) : CharSet := inter s (compl t)

/-- The union of the sets, the first of them outermost. -/
def unionAll : List CharSet → CharSet
  | [] => none
  | [s] => s
  | s :: ss => union s (unionAll ss)

/-- The set with case ignored: what is written out by members or properties is closed under
case folding, the classes of digits, spaces and words stand as they are, and combinations are
formed afterwards. -/
def ignoreCase : CharSet → CharSet
  | none => none
  | single c => folded (single c)
  | range first last => folded (range first last)
  | property .digit => property .digit
  | property .whiteSpace => property .whiteSpace
  | property .word => property .word
  | property p => folded (property p)
  | folded s => folded s
  | compl s => compl s.ignoreCase
  | union s t => union s.ignoreCase t.ignoreCase
  | inter s t => inter s.ignoreCase t.ignoreCase
  | symmDiff s t => symmDiff s.ignoreCase t.ignoreCase

def digits : CharSet := range '0' '9'

def lower : CharSet := range 'a' 'z'

def upper : CharSet := range 'A' 'Z'

def letters : CharSet := union upper lower

/-- The classes of ASCII characters that a bracket can name, as in `[:alpha:]`. -/
def posix? : String → Option CharSet
  | "alnum" => some (union digits letters)
  | "alpha" => some letters
  | "ascii" => some ascii
  | "blank" => some (union (single '\t') (single ' '))
  | "cntrl" => some (union (range '\x00' '\x1f') (single '\x7f'))
  | "digit" => some digits
  | "graph" => some (range '!' '~')
  | "lower" => some lower
  | "print" => some (range ' ' '~')
  | "punct" => some (unionAll [range '!' '/', range ':' '@', range '[' '\x60', range '\x7b' '~'])
  | "space" => some (union (range '\t' '\r') (single ' '))
  | "upper" => some upper
  | "word" => some (union digits (union letters (single '_')))
  | "xdigit" => some (union digits (union (range 'A' 'F') (range 'a' 'f')))
  | _ => Option.none

/-- A property name in loose form: without case, spaces, underscores, hyphens and characters
beyond ASCII, and without a leading `is`. -/
def looseName (name : List Char) : String :=
  let body := match name with
    | a :: b :: rest => if (a == 'i' || a == 'I') && (b == 's' || b == 'S') then rest else name
    | _ => name
  let kept := (body.filter fun c => c.toNat < 0x80 && !(" _-".toList.contains c)).map Char.toLower
  String.ofList kept

/-- The set of characters with the property of this name. -/
def named? (name : List Char) : Option CharSet :=
  match looseName name with
  | "any" => some any
  | "ascii" => some ascii
  | "assigned" => some (compl (property (.categories [.Cn])))
  | "alphabetic" | "alpha" => some (property .alphabetic)
  | "lowercase" | "lower" => some (property .lowercase)
  | "uppercase" | "upper" => some (property .uppercase)
  | "cased" => some (property .cased)
  | "caseignorable" | "ci" => some (property .caseIgnorable)
  | "graphemeextend" | "grext" => some (property .graphemeExtend)
  | "joincontrol" | "joinc" => some (property .joinControl)
  | "whitespace" | "wspace" | "space" => some (property .whiteSpace)
  | loose => (GeneralCategory.named? loose).map fun gs => property (.categories gs)

/-- The set of characters for which the property `name` has the value `value`. -/
def valued? (name value : List Char) : Option CharSet :=
  match looseName name with
  | "gc" | "generalcategory" =>
    match looseName value with
    | "any" => some any
    | "ascii" => some ascii
    | "assigned" => some (compl (property (.categories [.Cn])))
    | loose => (GeneralCategory.named? loose).map fun gs => property (.categories gs)
  | _ => Option.none

end CharSet

end LexTable
