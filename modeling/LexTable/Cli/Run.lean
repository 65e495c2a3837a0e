import LexTable.Cli.Arguments
import LexTable.Lexer.Cursor
import LexTable.Registry
import LexTable.Render.Raw
import LexTable.Render.StyleSetting
import LexTable.Render.Terminal
import LexTable.Warning

/-!
# The command line program

The program selects a lexer, reads a file or its standard input, and writes the tokens. Nothing
is written to the output if anything fails before.
-/

namespace LexTable.Cli

/-- Why an input cannot be read as text. -/
inductive ReadError where
  | notFound
  | notDirectory
  | isDirectory
  | permissionDenied
  | invalidText
  | other (message : String)
  deriving DecidableEq

def ReadError.message : ReadError → String
  | notFound => "No such file or directory (os error 2)"
  | notDirectory => "Not a directory (os error 20)"
  | isDirectory => "Is a directory (os error 21)"
  | permissionDenied => "Permission denied (os error 13)"
  | invalidText => "stream did not contain valid UTF-8"
  | other message => message

/-- How a run of the program ends. -/
structure Outcome where
  code : Nat
  output : String := ""
  errors : String := ""
  deriving DecidableEq

def failure (message : String) : String :=
  "Error: " ++ message ++ "\n"

def usage : String :=
  "usage: lextable [-l LEXER] [-f terminal|raw] [-s CATEGORY=SGR]... [--tab-size SIZE] " ++
    "[--raw-input] [--check] [--list] [FILE]\n"

/-- One line about a built-in lexer. -/
def listing (info : LexerInfo) : String :=
  info.name ++ " (" ++ ", ".intercalate info.aliases ++ ") " ++ " ".intercalate info.filenames ++
    " [added in " ++ info.versionAdded ++ "] " ++ info.url ++ "\n"

namespace Settings

def preparation (settings : Settings) : Preparation :=
  { tabSize := settings.tabSize }

/-- The lexer of the given alias, else the one that claims the file, else the one for
NuShell. -/
def selectLexer (settings : Settings) : Except LexError Lexer :=
  let standard := Registry.byAlias "nu" settings.preparation
  match settings.lexer?, settings.file? with
  | some name, _ => Registry.byAlias name settings.preparation
  | none, none => standard
  | none, some path =>
    match Registry.forFile path settings.preparation with
    | .ok lexer => .ok lexer
    | .error ⟨.unknownLexer _, _⟩ => standard
    | .error error => .error error

/-- Writes tokens in the chosen format. -/
def render (settings : Settings) (tokens : List Token) : Except InvalidStyle String :=
  match settings.format with
  | .raw => .ok (Render.raw tokens)
  | .terminal => do
    let theme ← Theme.standard.adjust settings.styles
    .ok (Render.terminal theme tokens)

/-- What becomes of a text that was read. -/
def highlight (settings : Settings) (lexer : Lexer) (source : String) : Outcome :=
  let text := if settings.rawInput then source else lexer.prepare source
  let tokens := lexer.tokenize text
  let warnings := if settings.check then Warning.report (Warning.collect text tokens) else ""
  match settings.render tokens with
  | .ok output => { code := 0, output, errors := warnings }
  | .error error => { code := 1, errors := warnings ++ failure error.message }

end Settings

def decode (bytes : ByteArray) : Except ReadError String :=
  (String.fromUTF8? bytes).elim (.error .invalidText) .ok

/-- Runs the program. `read` reads a file or, without a name, the standard input. -/
def run {m : Type → Type} [Monad m] (read : Option String → m (Except ReadError ByteArray))
    (arguments : List String) : m Outcome :=
  match Settings.ofArguments? arguments with
  | none => pure { code := 2, errors := usage }
  | some settings =>
    if settings.list then
      pure { code := 0, output := String.join (Registry.all.map fun b => listing b.info) }
    else
      match settings.selectLexer with
      | .error error => pure { code := 1, errors := error.report }
      | .ok lexer => do
        match (← read settings.file?) >>= decode with
        | .ok source => pure (settings.highlight lexer source)
        | .error error =>
          pure { code := 1, errors := failure ("failed to read input: " ++ error.message) }

end LexTable.Cli
