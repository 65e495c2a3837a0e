import LexTable.Token

/-!
# Token listings

One line for every token, with its kind and its quoted text.
-/

namespace LexTable.Render

def rawLine (token : Token) : String :=
  "Token." ++ token.kind.dottedName ++ "\t" ++ Text.quote token.value ++ "\n"

def raw (tokens : List Token) : String :=
  String.join (tokens.map rawLine)

end LexTable.Render
