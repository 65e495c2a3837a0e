import LexTable.Proofs.Table.Expansion

/-!
# Defects of rule tables

What can be wrong with a table and a name for its initial state. Every defect has a rank, a list of
numbers as an outline has them, and the order of ranks is that of an outline. Repeated state names
come first, then the initial state, then the states in their order. Of a state, what is wrong with
splicing comes before what is wrong with rules, in both cases in the order in which its expansion
meets the entries.
-/

namespace LexTable

open Lexer

namespace RuleTable

/-- Entry `index`, counted from 0, of a state with the name. -/
def EntryAt (table : RuleTable) (name : String) (index : Nat) (entry : Entry) : Prop :=
  ∃ state ∈ table, state.name = name ∧ state.entries[index]? = some entry

/-- The expansion of `state` comes to an entry by the given path, a list of entry numbers of which
the last one is that of the entry itself. The states in which this happens are `around`, with
`state` the first of them, and `inner` at the entry. None of them is entered again. -/
inductive Meets (table : RuleTable) :
    List String → StateEntry → List Nat → List String → Location → Entry → Prop
  | own {around : List String} {state : StateEntry} {index : Nat} {entry : Entry}
      (hentry : state.entries[index]? = some entry) :
      Meets table around state [index] around (.entry state.name index) entry
  | spliced {around inner : List String} {state next : StateEntry} {index : Nat} {path : List Nat}
      {location : Location} {entry : Entry} {target : String}
      (hentry : state.entries[index]? = some (.splice target))
      (hfind : table.find? target = some next) (hfresh : target ∉ around)
      (hmeets : Meets table (target :: around) next path inner location entry) :
      Meets table around state (index :: path) inner location entry

/-- What is wrong with splicing at an entry inside of the states `around`, by the number of the
check that finds it. -/
inductive SpliceDefect (table : RuleTable) (around : List String) (location : Location) :
    Entry → Nat → LexError → Prop
  | undefined {target : String} (htarget : target ∉ table.names) :
      SpliceDefect table around location (.splice target) 0 ⟨.undefinedState target, location⟩
  | cycle {target : String} (htarget : target ∈ around) :
      SpliceDefect table around location (.splice target) 1 ⟨.includeCycle target, .state target⟩

/-- What is wrong with the rule of an entry, by the number of the check that finds it. Of a pattern
that cannot be read, the message is that of its reader. -/
inductive RuleDefect (table : RuleTable) (reader : PatternReader) (location : Location) :
    Entry → Nat → LexError → Prop
  | pattern {rule : Rule} {message : String} (hpattern : reader rule.pattern = .error message) :
      RuleDefect table reader location (.rule rule) 0
        ⟨.invalidPattern rule.pattern message, location⟩
  | groups {rule : Rule} {kinds : List Kind} {regex : Regex}
      (haction : rule.action = .byGroups kinds)
      (hregex : reader rule.pattern = .ok regex)
      (hcount : kinds = [] ∨ regex.groupCount < kinds.length) :
      RuleDefect table reader location (.rule rule) 1
        ⟨.groupCountMismatch rule.pattern kinds.length regex.groupCount, location⟩
  | push {rule : Rule} {target : String} (hnext : rule.next = some (.push target))
      (htarget : target ∉ table.names) :
      RuleDefect table reader location (.rule rule) 2 ⟨.undefinedState target, location⟩

/-- A defect of the table by its rank. -/
inductive Defect (table : RuleTable) (initial : String) (reader : PatternReader) :
    List Nat → LexError → Prop
  | repeated {index : Nat} {name : String} (hname : table.names[index]? = some name)
      (hearlier : name ∈ table.names.take index) :
      Defect table initial reader [0, index] ⟨.duplicateState name, .state name⟩
  | initial (hinitial : initial ∉ table.names) :
      Defect table initial reader [1] ⟨.missingInitialState initial, .nowhere⟩
  | splicing {index check : Nat} {state : StateEntry} {path : List Nat} {inner : List String}
      {location : Location} {entry : Entry} {error : LexError} (hstate : table[index]? = some state)
      (hmeets : table.Meets [state.name] state path inner location entry)
      (hdefect : table.SpliceDefect inner location entry check error) :
      Defect table initial reader (2 :: index :: 0 :: path ++ [check]) error
  | rule {index check : Nat} {state : StateEntry} {path : List Nat} {inner : List String}
      {location : Location} {entry : Entry} {error : LexError} (hstate : table[index]? = some state)
      (hmeets : table.Meets [state.name] state path inner location entry)
      (hdefect : table.RuleDefect reader location entry check error) :
      Defect table initial reader (2 :: index :: 1 :: path ++ [check]) error

/-- What an error about a table says of it. Where an entry is at fault, the location is the state in
which it is written and its number there. -/
def Genuine (table : RuleTable) (initial : String) (reader : PatternReader) : LexError → Prop
  | ⟨.duplicateState name, location⟩ => 2 ≤ table.names.count name ∧ location = .state name
  | ⟨.missingInitialState name, location⟩ =>
    name = initial ∧ initial ∉ table.names ∧ location = .nowhere
  | ⟨.undefinedState target, location⟩ =>
    target ∉ table.names ∧ ∃ name index, location = .entry name index ∧
      (table.EntryAt name index (.splice target) ∨
        ∃ rule, table.EntryAt name index (.rule rule) ∧ rule.next = some (.push target))
  | ⟨.includeCycle target, location⟩ =>
    Relation.TransGen table.Splices target target ∧ location = .state target
  | ⟨.invalidPattern pattern message, location⟩ =>
    ∃ name index rule, location = .entry name index ∧ table.EntryAt name index (.rule rule) ∧
      pattern = rule.pattern ∧ reader rule.pattern = .error message
  | ⟨.groupCountMismatch pattern expected groups, location⟩ =>
    ∃ name index rule kinds regex, location = .entry name index ∧
      table.EntryAt name index (.rule rule) ∧ pattern = rule.pattern ∧
        rule.action = .byGroups kinds ∧ reader rule.pattern = .ok regex ∧
          expected = kinds.length ∧ groups = regex.groupCount ∧ (kinds = [] ∨ groups < expected)
  | ⟨.unknownLexer _, _⟩ => False
  | ⟨.invalidFilenamePattern _ _, _⟩ => False

/-- An entry that is met is where its location says, and all states around it lead there. -/
theorem Meets.placed {table : RuleTable} {around inner : List String} {state : StateEntry}
    {path : List Nat} {location : Location} {entry : Entry}
    (hmeets : table.Meets around state path inner location entry) (hstate : state ∈ table)
    (haround : ∀ name ∈ around, Relation.ReflTransGen table.Splices name state.name) :
    ∃ name index, location = .entry name index ∧ table.EntryAt name index entry ∧
      ∀ other ∈ inner, Relation.ReflTransGen table.Splices other name := by
  induction hmeets with
  | @own around state index entry hentry =>
    exact ⟨state.name, index, rfl, ⟨state, hstate, rfl, hentry⟩, haround⟩
  | @spliced around inner state next index path location entry target hentry hfind _ _ ih =>
    have hnext : next.name = target := name_of_find?_eq_some hfind
    have hsplices : table.Splices state.name next.name := by
      rw [hnext]
      exact ⟨state, hstate, rfl, List.mem_of_getElem? hentry⟩
    apply ih (mem_of_find?_eq_some hfind)
    intro name hname
    rcases List.mem_cons.1 hname with rfl | hearlier
    · rw [hnext]
    · exact (haround name hearlier).tail hsplices

theorem two_le_count_of_mem_take {names : List String} {index : Nat} {name : String}
    (hname : names[index]? = some name) (hearlier : name ∈ names.take index) :
    2 ≤ names.count name := by
  have hlater : name ∈ names.drop index := by
    apply List.mem_of_getElem? (i := 0)
    rw [List.getElem?_drop, Nat.add_zero, hname]
  have hfirst := List.count_pos_iff.2 hearlier
  have hsecond := List.count_pos_iff.2 hlater
  rw [← List.take_append_drop index names, List.count_append]
  omega

theorem Defect.genuine {table : RuleTable} {initial : String} {reader : PatternReader}
    {rank : List Nat} {error : LexError} (hdefect : table.Defect initial reader rank error) :
    table.Genuine initial reader error := by
  have hplaced {state : StateEntry} {index : Nat} {path : List Nat} {inner : List String}
      {location : Location} {entry : Entry} (hstate : table[index]? = some state)
      (hmeets : table.Meets [state.name] state path inner location entry) :=
    hmeets.placed (List.mem_of_getElem? hstate) (List.forall_mem_singleton.2 .refl)
  cases hdefect with
  | repeated hname hearlier => exact ⟨two_le_count_of_mem_take hname hearlier, rfl⟩
  | initial hinitial => exact ⟨rfl, hinitial, rfl⟩
  | splicing hstate hmeets hdefect =>
    obtain ⟨name, index, rfl, hentry, hreaches⟩ := hplaced hstate hmeets
    cases hdefect with
    | undefined htarget => exact ⟨htarget, name, index, rfl, .inl hentry⟩
    | cycle htarget =>
      obtain ⟨state, hstate, rfl, hentry⟩ := hentry
      exact ⟨.tail' (hreaches _ htarget) ⟨state, hstate, rfl, List.mem_of_getElem? hentry⟩, rfl⟩
  | rule hstate hmeets hdefect =>
    obtain ⟨name, index, rfl, hentry, -⟩ := hplaced hstate hmeets
    cases hdefect with
    | pattern hpattern => exact ⟨name, index, _, rfl, hentry, rfl, hpattern⟩
    | groups haction hregex hcount =>
      exact ⟨name, index, _, _, _, rfl, hentry, rfl, haction, hregex, rfl, rfl, hcount⟩
    | push hnext htarget => exact ⟨htarget, name, index, rfl, .inr ⟨_, hentry, hnext⟩⟩

end RuleTable

end LexTable
