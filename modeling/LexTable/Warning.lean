import LexTable.Text.Line
import LexTable.Token

/-!
# Warnings about unmatched text

One warning for every error token whose place lies in the text, with the line and the column of
the place, both counted from 1.
-/

namespace LexTable

structure Warning where
  line : Nat
  column : Nat
  value : String
  deriving DecidableEq

namespace Warning

/-- The warning about a token, if it is an error token with a place in the lines. -/
def ofToken? (lines : List String) (token : Token) : Option Warning :=
  if token.kind = .error then
    (Text.locate 1 token.span.start lines).map fun position =>
      ⟨position.number, position.column + 1, token.value⟩
  else
    none

/-- The warnings about the tokens of a text, in their order. -/
def collect (text : String) (tokens : List Token) : List Warning :=
  tokens.filterMap (ofToken? (Text.lines text))

def message (warning : Warning) : String :=
  "warning: " ++ toString warning.line ++ ":" ++ toString warning.column ++
    ": no rule matched " ++ Text.quote warning.value ++ "\n"

def report (warnings : List Warning) : String :=
  String.join (warnings.map message)

end Warning

end LexTable
