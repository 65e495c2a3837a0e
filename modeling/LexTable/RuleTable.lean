import LexTable.Kind

/-!
# Rule tables

A table names states and lists for each of them what it consists of: rules, and other states
whose rules are taken over in place. Order counts, for the first rule that matches is applied.
-/

namespace LexTable

/-- The kinds that a rule gives to the text it matches. -/
inductive Action where
  /-- One token for the whole match. -/
  | token (kind : Kind)
  /-- The kind at place `i` for group `i` of the match, counted from 1. -/
  | byGroups (kinds : List Kind)
  deriving DecidableEq

/-- How the stack of states changes after a match. -/
inductive Transition where
  | push (state : String)
  | pop
  deriving DecidableEq

structure Rule where
  pattern : String
  action : Action
  next : Option Transition := none
  deriving DecidableEq

inductive Entry where
  | rule (rule : Rule)
  /-- Stands for the rules of the named state. -/
  | splice (state : String)
  deriving DecidableEq

structure StateEntry where
  name : String
  entries : List Entry
  deriving DecidableEq

abbrev RuleTable := List StateEntry

namespace RuleTable

def names (table : RuleTable) : List String :=
  table.map (·.name)

def find? (table : RuleTable) (name : String) : Option StateEntry :=
  List.find? (·.name == name) table

theorem mem_of_find?_eq_some {table : RuleTable} {name : String} {state : StateEntry}
    (hfind : table.find? name = some state) : state ∈ table :=
  List.mem_of_find?_eq_some hfind

end RuleTable

end LexTable
