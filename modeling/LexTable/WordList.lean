import LexTable.Pattern.Symbol

/-!
# Patterns for lists of words

Alternatives are tried in order, so that a word would hide any longer word that begins with it.
A list of words is therefore sorted by length before it becomes a pattern.
-/

namespace LexTable.WordList

/-- The pattern that matches the given text and nothing else. -/
def literal (text : List Char) : List Char :=
  text.flatMap fun c => if Pattern.isMeta c then ['\\', c] else [c]

/-- The words without empty and repeated ones, the longest first, and in the given order among
words of the same length. -/
def longestFirst (words : List String) : List String :=
  ((words.filter (· ≠ "")).eraseDups).mergeSort fun a b => b.utf8ByteSize ≤ a.utf8ByteSize

/-- A pattern for the words of a list, between two given patterns. -/
def pattern (words : List String) (before after : String) : String :=
  let alternatives := (longestFirst words).map fun word => literal word.toList
  before ++ "(?:" ++ String.ofList (['|'].intercalate alternatives) ++ ")" ++ after

end LexTable.WordList
