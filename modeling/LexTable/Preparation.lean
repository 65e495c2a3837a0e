import LexTable.Text.Trim

/-!
# Preparing a text

Before a text is cut into tokens its line endings can be made uniform, its edges trimmed, its
tabs expanded and its last line completed. The steps always come in this order.
-/

namespace LexTable

/-- Which steps are taken. Line endings and a leading byte order mark are always seen to. -/
structure Preparation where
  /-- Cut newlines from both ends. -/
  trimNewlines : Bool := true
  /-- Cut all white space from both ends. -/
  trimBlanks : Bool := false
  /-- End with a newline. -/
  endWithNewline : Bool := true
  /-- The distance of tab stops, 0 to leave tabs alone. -/
  tabSize : Nat := 0
  deriving DecidableEq

namespace Preparation

def dropMark : List Char → List Char
  | '\ufeff' :: cs => cs
  | cs => cs

/-- Writes each line ending as a single newline. -/
def unifyNewlines : List Char → List Char
  | '\r' :: '\n' :: cs => '\n' :: unifyNewlines cs
  | '\r' :: cs => '\n' :: unifyNewlines cs
  | c :: cs => c :: unifyNewlines cs
  | [] => []

/-- Replaces each tab by spaces up to the next multiple of `size`, in a text that begins
`column` characters after the start of a line. -/
def expandTabsFrom (size column : Nat) : List Char → List Char
  | [] => []
  | c :: cs =>
    if c = '\t' then
      let width := size - column % size
      List.replicate width ' ' ++ expandTabsFrom size (column + width) cs
    else if c = '\n' then
      c :: expandTabsFrom size 0 cs
    else
      c :: expandTabsFrom size (column + 1) cs

def expandTabs (size : Nat) (cs : List Char) : List Char :=
  expandTabsFrom size 0 cs

def completeLine (cs : List Char) : List Char :=
  if cs.getLast? = some '\n' then cs else cs ++ ['\n']

def trimEdges (p : Preparation) (cs : List Char) : List Char :=
  if p.trimBlanks then Text.trimWhiteSpace cs
  else if p.trimNewlines then Text.trim (· == '\n') cs
  else cs

def apply (p : Preparation) (text : String) : String :=
  let cs := p.trimEdges (unifyNewlines (dropMark text.toList))
  let cs := if p.tabSize = 0 then cs else expandTabs p.tabSize cs
  String.ofList (if p.endWithNewline then completeLine cs else cs)

end Preparation

end LexTable
