import LexTable.Text.Quoted

/-!
# Errors

What can be wrong with a rule table, with a name that should select a lexer, and with a pattern
for file names, and how these errors are told to a reader.
-/

namespace LexTable

/-- The place of an error in a rule table. -/
inductive Location where
  | nowhere
  | state (name : String)
  /-- The entry of a state, counted from 0. -/
  | entry (state : String) (index : Nat)
  deriving DecidableEq

namespace Location

def stateName : Location → String
  | nowhere => "<null>"
  | state name => name
  | entry name _ => name

def index? : Location → Option Nat
  | entry _ index => some index
  | _ => none

def describe (location : Location) : String :=
  match location.index? with
  | none => location.stateName
  | some index => location.stateName ++ "[" ++ toString index ++ "]"

end Location

namespace LexError

inductive Cause where
  | invalidPattern (pattern message : String)
  | undefinedState (state : String)
  | duplicateState (state : String)
  | missingInitialState (state : String)
  | includeCycle (state : String)
  | groupCountMismatch (pattern : String) (expected groups : Nat)
  | unknownLexer (name : String)
  | invalidFilenamePattern (pattern message : String)
  deriving DecidableEq

namespace Cause

open Text

def name : Cause → String
  | invalidPattern .. => "InvalidPattern"
  | undefinedState .. => "UndefinedState"
  | duplicateState .. => "DuplicateState"
  | missingInitialState .. => "MissingInitialState"
  | includeCycle .. => "IncludeCycle"
  | groupCountMismatch .. => "GroupCountMismatch"
  | unknownLexer .. => "UnknownLexer"
  | invalidFilenamePattern .. => "InvalidFilenamePattern"

def detail : Cause → String
  | invalidPattern pattern message => "invalid pattern " ++ quote pattern ++ ": " ++ message
  | undefinedState state => "state " ++ quote state ++ " is not defined"
  | duplicateState state => "state " ++ quote state ++ " is defined more than once"
  | missingInitialState state => "initial state " ++ quote state ++ " is not defined"
  | includeCycle state => "state " ++ quote state ++ " includes itself"
  | groupCountMismatch pattern expected groups =>
    "pattern " ++ quote pattern ++ " maps " ++ toString expected ++ " categories onto " ++
      toString groups ++ " capture groups"
  | unknownLexer name => "no lexer found for " ++ quote name
  | invalidFilenamePattern pattern message =>
    "invalid filename pattern " ++ quote pattern ++ ": " ++ message

/-- Advice to whoever meets the error. -/
def tip? : Cause → Option String
  | invalidPattern pattern _ =>
    some ("Pattern `" ++ pattern ++
      "` does not compile, check escaping of `[`, `&&`, `--` and `~~` inside classes")
  | undefinedState state =>
    some ("State `" ++ state ++ "` is referenced but never defined")
  | duplicateState state =>
    some ("State `" ++ state ++ "` is defined more than once")
  | missingInitialState state =>
    some ("The rule table has no `" ++ state ++ "` state to start from")
  | includeCycle state =>
    some ("State `" ++ state ++ "` includes itself, directly or through another state")
  | groupCountMismatch _ 0 _ => some "A group action needs at least one category"
  | groupCountMismatch _ _ groups =>
    some ("The pattern only has " ++ toString groups ++ " capture groups")
  | unknownLexer _ => some "Run with `--list` to see the available lexers"
  | invalidFilenamePattern .. => none

end Cause

end LexError

structure LexError where
  cause : LexError.Cause
  location : Location
  deriving DecidableEq

namespace LexError

def message (error : LexError) : String :=
  error.cause.detail ++ " (at " ++ error.location.describe ++ ")"

/-- The error as a command line program shows it. -/
def report (error : LexError) : String :=
  "Error: " ++ error.cause.name ++ (error.cause.tip?.elim "" fun tip => " (" ++ tip ++ ")") ++
    "\n-> " ++ error.location.describe ++ "\n   " ++ error.cause.detail ++ "\n"

end LexError

end LexTable
