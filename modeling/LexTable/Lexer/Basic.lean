import LexTable.Preparation
import LexTable.Regex.Matcher
import LexTable.RuleTable

/-!
# Lexers

A lexer is a rule table made ready to run: every state has its full list of rules, with patterns
read. States keep the order of the table and are known by name. A lexer also carries how texts
are to be prepared for it; cutting a text into tokens does not look at that.
-/

namespace LexTable

namespace Lexer

structure Rule where
  regex : Regex
  action : Action
  next : Option Transition
  deriving DecidableEq

structure State where
  name : String
  rules : List Rule
  deriving DecidableEq

end Lexer

structure Lexer where
  states : List Lexer.State
  initial : String
  preparation : Preparation := {}
  deriving DecidableEq

namespace Lexer

def withPreparation (lexer : Lexer) (preparation : Preparation) : Lexer :=
  { lexer with preparation }

def find? (lexer : Lexer) (name : String) : Option State :=
  lexer.states.find? (·.name == name)

/-- The rules of a state, none if there is no such state. -/
def rulesOf (lexer : Lexer) (name : String) : List Rule :=
  (lexer.find? name).elim [] (·.rules)

def ruleCount? (lexer : Lexer) (name : String) : Option Nat :=
  (lexer.find? name).map (·.rules.length)

def prepare (lexer : Lexer) (text : String) : String :=
  lexer.preparation.apply text

end Lexer

end LexTable
