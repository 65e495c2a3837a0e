import LexTable.Glob
import LexTable.Lexer.Build
import LexTable.NuShell

/-!
# Built-in lexers

Lexers are selected by an alias, in which case does not count, or by the name of a file.
-/

namespace LexTable

/-- What is known of a built-in lexer. -/
structure LexerInfo where
  name : String
  aliases : List String
  filenames : List String
  mimetypes : List String
  url : String
  versionAdded : String
  deriving DecidableEq

namespace NuShell

def info : LexerInfo where
  name := "NuShell"
  aliases := ["nushell", "nu"]
  filenames := ["*.nu"]
  mimetypes := []
  url := "https://fr.wikipedia.org/wiki/Nutshell"
  versionAdded := "0.1"

def lexer : Except LexError Lexer :=
  Lexer.build table "root"

end NuShell

namespace Registry

structure Builtin where
  info : LexerInfo
  lexer : Except LexError Lexer

def all : List Builtin :=
  [⟨NuShell.info, NuShell.lexer⟩]

def unknown (name : String) : LexError :=
  ⟨.unknownLexer name, .nowhere⟩

/-- The lexer that has the name, in lower case, among its aliases. -/
def byAlias (name : String) (preparation : Preparation) : Except LexError Lexer :=
  let name := String.ofList (Unicode.toLowerCase name.toList)
  match all.find? (·.info.aliases.contains name) with
  | some builtin => builtin.lexer.map (·.withPreparation preparation)
  | none => .error (unknown name)

/-- The last component of a path, empty if the path ends in none or in its parent directory. -/
def fileName (path : String) : String :=
  let components := (path.toList.splitOn '/').filter fun name => name ≠ [] ∧ name ≠ ['.']
  match components.getLast? with
  | none => ""
  | some name => if name = ['.', '.'] then "" else String.ofList name

def claims (builtin : Builtin) (name : String) : Bool :=
  builtin.info.filenames.any fun glob =>
    match Glob.compile glob with
    | .ok glob => glob.accepts name
    | .error _ => false

/-- The lexer one of whose file name patterns matches the last component of the path. -/
def forFile (path : String) (preparation : Preparation) : Except LexError Lexer :=
  let name := fileName path
  match all.find? (claims · name) with
  | some builtin => builtin.lexer.map (·.withPreparation preparation)
  | none => .error (unknown name)

end Registry

end LexTable
