/-!
# Command line arguments

Options may be written `-f raw`, `-fraw`, `-f=raw`, `--format raw` and `--format=raw`. After
`--` every argument is a file name. A value in an argument of its own does not begin with a
dash, unless it is nothing but a dash.
-/

namespace LexTable.Cli

inductive OutputFormat where
  | terminal
  | raw
  deriving DecidableEq

/-- What the arguments have said so far. What they did not mention is missing. -/
structure Settings where
  file? : Option String := none
  lexer? : Option String := none
  format? : Option OutputFormat := none
  styles : List String := []
  tabSize? : Option Nat := none
  rawInput : Bool := false
  check : Bool := false
  list : Bool := false
  deriving DecidableEq

inductive ValueOption where
  | lexer
  | format
  | style
  | tabSize
  deriving DecidableEq

def OutputFormat.ofName? : String → Option OutputFormat
  | "terminal" => some .terminal
  | "raw" => some .raw
  | _ => none

/-- A number below 2^64 in decimal digits, which a plus sign may precede. -/
def readSize? (text : String) : Option Nat :=
  let digits := match text.toList with
    | '+' :: cs => cs
    | cs => cs
  let value := digits.foldl (fun n c => 10 * n + (c.toNat - '0'.toNat)) 0
  if !digits.isEmpty && digits.all Char.isDigit && value < UInt64.size then some value else none

namespace Settings

def format (settings : Settings) : OutputFormat :=
  settings.format?.getD .terminal

def tabSize (settings : Settings) : Nat :=
  settings.tabSize?.getD 0

/-- Takes a value for an option. Only styles may be given more than once. -/
def setValue? (settings : Settings) (option : ValueOption) (value : String) : Option Settings :=
  match option with
  | .lexer =>
    if settings.lexer?.isSome then none else some { settings with lexer? := some value }
  | .format =>
    if settings.format?.isSome then none
    else (OutputFormat.ofName? value).map fun format => { settings with format? := some format }
  | .style => some { settings with styles := settings.styles ++ [value] }
  | .tabSize =>
    if settings.tabSize?.isSome then none
    else (readSize? value).map fun size => { settings with tabSize? := some size }

def setFile? (settings : Settings) (path : String) : Option Settings :=
  if settings.file?.isSome || path.isEmpty then none else some { settings with file? := some path }

/-- Sets the flag with the given long name, which may be given once. -/
def setFlag? (settings : Settings) (name : String) : Option Settings :=
  match name with
  | "raw-input" => if settings.rawInput then none else some { settings with rawInput := true }
  | "check" => if settings.check then none else some { settings with check := true }
  | "list" => if settings.list then none else some { settings with list := true }
  | _ => none

end Settings

def ValueOption.ofLong? : String → Option ValueOption
  | "lexer" => some .lexer
  | "format" => some .format
  | "style" => some .style
  | "tab-size" => some .tabSize
  | _ => none

def ValueOption.ofShort? : Char → Option ValueOption
  | 'l' => some .lexer
  | 'f' => some .format
  | 's' => some .style
  | _ => none

/-- What a single argument does: it is complete, or the next argument is the value of an
option. -/
abbrev Reading := Settings × Option ValueOption

/-- Reads an argument after its two dashes. -/
def readLong? (settings : Settings) (body : List Char) : Option Reading :=
  let name := body.takeWhile (· != '=')
  match ValueOption.ofLong? (String.ofList name), body.drop name.length with
  | some option, [] => some (settings, some option)
  | some option, _ :: value =>
    (settings.setValue? option (String.ofList value)).map (·, none)
  | none, [] => (settings.setFlag? (String.ofList name)).map (·, none)
  | none, _ :: _ => none

/-- Reads an argument after its only dash. -/
def readShort? (settings : Settings) (letter : Char) (body : List Char) : Option Reading :=
  match ValueOption.ofShort? letter, body with
  | none, _ => none
  | some option, [] => some (settings, some option)
  | some option, '=' :: value =>
    (settings.setValue? option (String.ofList value)).map (·, none)
  | some option, value =>
    (settings.setValue? option (String.ofList value)).map (·, none)

/-- Reads an argument where none is awaited. -/
def readArgument? (settings : Settings) (argument : String) : Option Reading :=
  match argument.toList with
  | '-' :: '-' :: body => readLong? settings body
  | '-' :: letter :: body => readShort? settings letter body
  | _ => (settings.setFile? argument).map (·, none)

/-- Reads arguments, the first of which may be the value that an option awaits. -/
def readArguments? (settings : Settings) (awaiting : Option ValueOption) :
    List String → Option Settings
  | [] => if awaiting.isSome then none else some settings
  | argument :: arguments =>
    match awaiting with
    | some option =>
      match argument.toList with
      | '-' :: _ :: _ => none
      | _ => do
        let settings ← settings.setValue? option argument
        readArguments? settings none arguments
    | none =>
      if argument = "--" then
        arguments.foldlM Settings.setFile? settings
      else do
        let (settings, awaiting) ← readArgument? settings argument
        readArguments? settings awaiting arguments

/-- The settings that a command line makes, if it is well formed. -/
def Settings.ofArguments? (arguments : List String) : Option Settings :=
  readArguments? {} none arguments

end LexTable.Cli
