import LexTable.Render.Theme
import LexTable.Text.Line
import LexTable.Token

/-!
# Colored text

The tokens are written one after the other, each in the style that a theme gives to its kind. A
style begins and ends within a line, so that no newline is colored and every line is complete by
itself.
-/

namespace LexTable.Render

def escape : Char := '\x1b'

/-- Begins a style. -/
def opening (style : String) : List Char :=
  [escape, '['] ++ style.toList ++ ['m']

/-- Goes back to the default colors and attributes. -/
def reset : List Char :=
  escape :: "[39;49;00m".toList

/-- Colors a line, leaving its newline as it is. -/
def colorLine (style : String) (line : List Char) : List Char :=
  let text := if line.getLast? = some '\n' then line.dropLast else line
  (if text.isEmpty then [] else opening style ++ text ++ reset) ++ line.drop text.length

def terminalToken (theme : Theme) (token : Token) : List Char :=
  match theme.style? token.kind with
  | none => token.value.toList
  | some style => (Text.splitLines token.value.toList).flatMap (colorLine style)

def terminal (theme : Theme) (tokens : List Token) : String :=
  String.ofList (tokens.flatMap (terminalToken theme))

end LexTable.Render
