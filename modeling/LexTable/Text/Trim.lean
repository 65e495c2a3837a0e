import LexTable.Unicode.Property

/-!
# Trimming
-/

namespace LexTable.Text

/-- Cuts the characters that satisfy `p` from both ends. -/
def trim (p : Char → Bool) (cs : List Char) : List Char :=
  ((cs.dropWhile p).reverse.dropWhile p).reverse

def trimWhiteSpace (cs : List Char) : List Char :=
  trim Unicode.isWhiteSpace cs

end LexTable.Text
