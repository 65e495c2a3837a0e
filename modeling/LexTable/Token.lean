import LexTable.Kind
import LexTable.Text.Quoted

/-!
# Tokens

A token is a piece of a text together with its kind and its place in that text.
-/

namespace LexTable

/-- The bytes of a text from `start` to before `stop`. -/
structure Span where
  start : Nat
  stop : Nat
  deriving DecidableEq

def Span.length (span : Span) : Nat :=
  span.stop - span.start

def Span.isEmpty (span : Span) : Bool :=
  span.start == span.stop

structure Token where
  kind : Kind
  value : String
  span : Span
  deriving DecidableEq

/-- The kind and the quoted text of a token, for a reader. -/
def Token.describe (token : Token) : String :=
  "Token \x7b\nkind: " ++ token.kind.dottedName ++ ",\nvalue: " ++ Text.quote token.value ++
    "\x7d"

end LexTable
