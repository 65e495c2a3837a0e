import LexTable.Unicode.Property

/-!
# Quoted text

A quoted text stands between double quotes on a single line. Quotes and backslashes, the common
control characters, and whatever has no visible form of its own are escaped.
-/

namespace LexTable.Text

/-- Whether a character would not be seen, or would change the one before it. -/
def isHidden (c : Char) : Bool :=
  Unicode.isGraphemeExtend c || !Unicode.isPrintable c

def escapeChar (c : Char) : List Char :=
  match c with
  | '"' => ['\\', '"']
  | '\\' => ['\\', '\\']
  | '\n' => ['\\', 'n']
  | '\r' => ['\\', 'r']
  | '\t' => ['\\', 't']
  | '\x00' => ['\\', '0']
  | _ =>
    if isHidden c then ['\\', 'u', '\x7b'] ++ Nat.toDigits 16 c.toNat ++ ['\x7d'] else [c]

def quote (s : String) : String :=
  String.ofList ('"' :: s.toList.flatMap escapeChar ++ ['"'])

end LexTable.Text
