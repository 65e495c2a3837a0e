import LexTable.LexError
import LexTable.Pattern.Parse
import LexTable.Pattern.Report
import LexTable.Regex.Matcher
import LexTable.WordList

/-!
# File name patterns

In a file name pattern an asterisk stands for any characters, a question mark for any one
character, and brackets for one character of a set. It is spelled out as a regular expression
for the whole name.
-/

namespace LexTable.Glob

/-- A bracket is closed by the first closing bracket that is not its first member. -/
def closesBracket (c : Char) (members : List Char) : Bool :=
  c == ']' && !members.isEmpty && members != ['^']

/-- Writes a member of a bracket so that it stands for itself in a class. -/
def member (c : Char) : List Char :=
  if "\\[]&~".toList.contains c then ['\\', c] else [c]

/-- Spells out a file name pattern. `bracket` is what the bracket that is open has become so
far. A bracket that is never closed cannot be spelled out. -/
def spellOut (bracket : Option (List Char)) (glob : List Char) : Option (List Char) :=
  match bracket, glob with
  | none, [] => some []
  | none, '*' :: cs => (spellOut none cs).map ('.' :: '*' :: ·)
  | none, '?' :: cs => (spellOut none cs).map ('.' :: ·)
  | none, '[' :: '!' :: cs => spellOut (some ['^']) cs
  | none, '[' :: cs => spellOut (some []) cs
  | none, c :: cs => (spellOut none cs).map (WordList.literal [c] ++ ·)
  | some _, [] => none
  | some members, c :: cs =>
    if closesBracket c members then
      (spellOut none cs).map (['['] ++ members ++ [']'] ++ ·)
    else
      spellOut (some (members ++ member c)) cs

/-- The pattern of a regular expression for the names that match. -/
def pattern? (glob : String) : Option String :=
  (spellOut none glob.toList).map fun body => String.ofList ('^' :: body ++ ['$'])

/-- A file name pattern ready to be matched, with the pattern that it is spelled out as. -/
structure Compiled where
  pattern : String
  regex : Regex
  deriving DecidableEq

def compile (glob : String) : Except LexError Compiled :=
  match pattern? glob with
  | none => .error ⟨.invalidFilenamePattern glob "unterminated `[`", .nowhere⟩
  | some pattern =>
    match Pattern.parse {} pattern.toList with
    | .ok regex => .ok ⟨pattern, regex⟩
    | .error error =>
      .error ⟨.invalidFilenamePattern glob (Pattern.report pattern.toList error), .nowhere⟩

/-- Whether a name matches. The expression is anchored at both ends, so that a match at the
start is one of the whole name. -/
def Compiled.accepts (glob : Compiled) (name : String) : Bool :=
  (glob.regex.match? none name.toList).isSome

end LexTable.Glob
