import LexTable.LexError
import LexTable.Lexer.Basic
import LexTable.Pattern.Parse

/-!
# Building lexers

A rule table becomes a lexer if its names are in order, if splicing comes to an end, and if
every rule can be read. The first defect is reported: repeated state names, then the initial
state, then state by state what is wrong with splicing before what is wrong with rules. None of
this depends on how patterns are written, so their reader is a parameter.
-/

namespace LexTable.Lexer

open LexError

/-- The first name that has occurred before. -/
def firstRepeated (seen : List String) : List String → Option String
  | [] => none
  | name :: names =>
    if seen.contains name then some name else firstRepeated (name :: seen) names

/-- A rule of a table and the place where it is written. -/
structure PlacedRule where
  rule : LexTable.Rule
  location : Location
  deriving DecidableEq

/-- How many states of the table are not in the chain. -/
def outside (table : RuleTable) (chain : List String) : Nat :=
  (table.names.filter (· ∉ chain)).length

theorem outside_cons_lt {table : RuleTable} {chain : List String} {state : StateEntry}
    (hstate : state ∈ table) (hchain : state.name ∉ chain) :
    outside table (state.name :: chain) < outside table chain := by
  have hfilter : table.names.filter (· ∉ state.name :: chain) =
      (table.names.filter (· ∉ chain)).filter (· ≠ state.name) := by
    rw [List.filter_filter]
    congr 1
    funext name
    simp
  have hmem : state.name ∈ table.names.filter (· ∉ chain) :=
    List.mem_filter.2 ⟨List.mem_map_of_mem hstate, by simpa using hchain⟩
  rw [outside, outside, hfilter]
  exact List.length_filter_lt_length_iff_exists.2 ⟨state.name, hmem, by simp⟩

mutual

/-- The rules of a state in full, where `chain` are the states in which it is being spliced. A
state that is spliced again inside itself ends the attempt, so no chain grows beyond the table. -/
def splice (table : RuleTable) (chain : List String) (state : { state // state ∈ table }) :
    Except LexError (List PlacedRule) :=
  if _hchain : state.val.name ∈ chain then
    .error ⟨.includeCycle state.val.name, .state state.val.name⟩
  else
    spliceEntries table (state.val.name :: chain) state.val.name 0 state.val.entries
termination_by (outside table chain, 0)
decreasing_by exact Prod.Lex.left _ _ (outside_cons_lt state.property _hchain)

/-- The rules of the entries of state `name` from place `index` on. -/
def spliceEntries (table : RuleTable) (chain : List String) (name : String) (index : Nat)
    (entries : List Entry) : Except LexError (List PlacedRule) :=
  match entries with
  | [] => .ok []
  | .rule rule :: entries => do
    let rules ← spliceEntries table chain name (index + 1) entries
    .ok (⟨rule, .entry name index⟩ :: rules)
  | .splice target :: entries =>
    match hfind : table.find? target with
    | none => .error ⟨.undefinedState target, .entry name index⟩
    | some state => do
      let spliced ← splice table chain ⟨state, RuleTable.mem_of_find?_eq_some hfind⟩
      let rules ← spliceEntries table chain name (index + 1) entries
      .ok (spliced ++ rules)
termination_by (outside table chain, entries.length + 1)

end

/-- How the texts of patterns are read: the expression that a text writes, or the message that it
writes none. -/
abbrev PatternReader := String → Except String Regex

/-- Patterns of rules are read with line anchors. -/
def ruleFlags : Pattern.Flags := { multiLine := true }

/-- Reads the patterns of `Pattern`, which knows the common flags and properties. The message does
not say what is wrong with a text. -/
def lineReader : PatternReader := fun pattern ↦
  (Pattern.parse ruleFlags pattern.toList).mapError fun _ ↦ "error parsing pattern 0"

def readPattern (reader : PatternReader) (pattern : String) (location : Location) :
    Except LexError Regex :=
  (reader pattern).mapError fun message ↦ ⟨.invalidPattern pattern message, location⟩

/-- A group action has a kind for at least one group, and for no group that is missing. -/
def checkGroups (pattern : String) (action : Action) (groups : Nat) (location : Location) :
    Except LexError Unit :=
  match action with
  | .token _ => .ok ()
  | .byGroups kinds =>
    if kinds.isEmpty || groups < kinds.length then
      .error ⟨.groupCountMismatch pattern kinds.length groups, location⟩
    else
      .ok ()

def checkTransition (table : RuleTable) (next : Option Transition) (location : Location) :
    Except LexError Unit :=
  match next with
  | some (.push target) =>
    if table.names.contains target then .ok () else .error ⟨.undefinedState target, location⟩
  | _ => .ok ()

def readRule (reader : PatternReader) (table : RuleTable) (placed : PlacedRule) :
    Except LexError Rule := do
  let rule := placed.rule
  let regex ← readPattern reader rule.pattern placed.location
  checkGroups rule.pattern rule.action regex.groupCount placed.location
  checkTransition table rule.next placed.location
  .ok ⟨regex, rule.action, rule.next⟩

def readState (reader : PatternReader) (table : RuleTable) (state : { state // state ∈ table }) :
    Except LexError State := do
  let placed ← splice table [] state
  let rules ← placed.mapM (readRule reader table)
  .ok ⟨state.val.name, rules⟩

/-- The lexer that a rule table describes, starting in the state `initial`. -/
def build (table : RuleTable) (initial : String) (reader : PatternReader := lineReader) :
    Except LexError Lexer :=
  match firstRepeated [] table.names with
  | some name => .error ⟨.duplicateState name, .state name⟩
  | none =>
    if table.names.contains initial then do
      let states ← table.attach.mapM (readState reader table)
      .ok { states, initial }
    else
      .error ⟨.missingInitialState initial, .nowhere⟩

end LexTable.Lexer
