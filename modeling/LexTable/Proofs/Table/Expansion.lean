import LexTable.Lexer.Build
import Mathlib.Data.List.Nodup
import Mathlib.Logic.Relation

/-!
# Expansion of spliced states

The entries of a state expand to rules: a rule to itself, and a spliced state to what its own
entries expand to, in place. Splicing computes the expansion. It succeeds for all states of a
table exactly if every state that is spliced is defined and none reaches itself.
-/

namespace LexTable

theorem Except.bind_eq_ok_iff {ε α β : Type} {x : Except ε α} {f : α → Except ε β} {b : β} :
    x >>= f = .ok b ↔ ∃ a, x = .ok a ∧ f a = .ok b := by
  cases x with
  | error e =>
    constructor
    · intro herror
      cases herror
    · rintro ⟨_, hx, -⟩
      cases hx
  | ok a =>
    constructor
    · intro hf
      exact ⟨a, rfl, hf⟩
    · rintro ⟨_, ⟨⟩, hf⟩
      exact hf

theorem Except.mapError_eq_ok_iff {ε ε' α : Type} {f : ε → ε'} {x : Except ε α} {a : α} :
    x.mapError f = .ok a ↔ x = .ok a := by
  cases x with
  | error e =>
    constructor
    · intro herror
      cases herror
    · intro herror
      cases herror
  | ok b => rw [Except.mapError, Except.ok.injEq, Except.ok.injEq]

theorem Except.map_toOption_eq_some_iff {ε α β : Type} {x : Except ε α} {f : α → β} {b : β} :
    x.toOption.map f = some b ↔ ∃ a, x = .ok a ∧ f a = b := by
  cases x with
  | error e => simp [Except.toOption]
  | ok a => simp [Except.toOption]

theorem Except.mapM_eq_ok_iff {ε α β : Type} {f : α → Except ε β} {xs : List α} {ys : List β} :
    xs.mapM f = .ok ys ↔ List.Forall₂ (fun x y ↦ f x = .ok y) xs ys := by
  induction xs generalizing ys with
  | nil =>
    rw [List.mapM_nil, List.forall₂_nil_left_iff]
    constructor
    · intro hpure
      exact (Except.ok.inj hpure).symm
    · intro hnil
      rw [hnil]
      rfl
  | cons x xs ih =>
    rw [List.mapM_cons, List.forall₂_cons_left_iff]
    simp only [Except.bind_eq_ok_iff, ih]
    constructor
    · rintro ⟨y, hy, others, hothers, hpure⟩
      exact ⟨y, others, hy, hothers, (Except.ok.inj hpure).symm⟩
    · rintro ⟨y, others, hy, hothers, rfl⟩
      exact ⟨y, hy, others, hothers, rfl⟩

namespace RuleTable

/-- An entry of the state `name` stands for the rules of the state `target`. -/
def Splices (table : RuleTable) (name target : String) : Prop :=
  ∃ state ∈ table, state.name = name ∧ .splice target ∈ state.entries

/-- The rules for which entries of the table stand. -/
inductive Expands (table : RuleTable) : List Entry → List Rule → Prop
  | nil : Expands table [] []
  | rule {rule : Rule} {entries : List Entry} {rules : List Rule}
      (hrest : Expands table entries rules) : Expands table (.rule rule :: entries) (rule :: rules)
  | splice {target : String} {state : StateEntry} {entries : List Entry}
      {spliced rules : List Rule} (hfind : table.find? target = some state)
      (hstate : Expands table state.entries spliced) (hrest : Expands table entries rules) :
      Expands table (.splice target :: entries) (spliced ++ rules)

theorem expands_rules (table : RuleTable) (rules : List Rule) :
    table.Expands (rules.map .rule) rules := by
  induction rules with
  | nil => exact .nil
  | cons rule rules ih => exact .rule ih

theorem name_of_find?_eq_some {table : RuleTable} {name : String} {state : StateEntry}
    (hfind : table.find? name = some state) : state.name = name := by
  simpa using List.find?_some hfind

theorem exists_find?_iff {table : RuleTable} {name : String} :
    (∃ state, table.find? name = some state) ↔ name ∈ table.names := by
  rw [← Option.isSome_iff_exists, find?, List.find?_isSome, names, List.mem_map]
  simp only [beq_iff_eq]

theorem splices_of_find?_eq_some {table : RuleTable} {name target : String} {state : StateEntry}
    (hfind : table.find? name = some state) (hentry : .splice target ∈ state.entries) :
    table.Splices name target :=
  ⟨state, mem_of_find?_eq_some hfind, name_of_find?_eq_some hfind, hentry⟩

theorem eq_of_mem_of_name_eq {table : RuleTable} (hnames : table.names.Nodup)
    {state other : StateEntry} (hstate : state ∈ table) (hother : other ∈ table)
    (hname : state.name = other.name) : state = other :=
  List.inj_on_of_nodup_map hnames hstate hother hname

namespace Expands

variable {table : RuleTable} {entries : List Entry} {rules : List Rule}

theorem unique (hexpands : table.Expands entries rules) {others : List Rule}
    (hothers : table.Expands entries others) : rules = others := by
  induction hexpands generalizing others with
  | nil =>
    cases hothers
    rfl
  | rule _ ih =>
    cases hothers with
    | rule hrest => rw [ih hrest]
  | splice hfind _ _ ihstate ihrest =>
    cases hothers with
    | splice hinstead hstate hrest =>
      obtain rfl := Option.some.inj (hfind.symm.trans hinstead)
      rw [ihstate hstate, ihrest hrest]

theorem mem_of_rule_mem (hexpands : table.Expands entries rules) {rule : Rule}
    (hrule : .rule rule ∈ entries) : rule ∈ rules := by
  induction hexpands with
  | nil => cases hrule
  | rule _ ih =>
    rcases List.mem_cons.1 hrule with heq | hrest
    · obtain rfl := Entry.rule.inj heq
      exact List.mem_cons_self ..
    · exact List.mem_cons_of_mem _ (ih hrest)
  | splice _ _ _ _ ih =>
    rcases List.mem_cons.1 hrule with heq | hrest
    · cases heq
    · exact List.mem_append_right _ (ih hrest)

theorem rule_mem_of_mem (hexpands : table.Expands entries rules) {rule : Rule}
    (hrule : rule ∈ rules) :
    .rule rule ∈ entries ∨ ∃ state ∈ table, .rule rule ∈ state.entries := by
  induction hexpands with
  | nil => cases hrule
  | rule _ ih =>
    rcases List.mem_cons.1 hrule with rfl | hrest
    · exact .inl (List.mem_cons_self ..)
    · exact (ih hrest).imp_left (List.mem_cons_of_mem _)
  | splice hfind _ _ ihstate ihrest =>
    rcases List.mem_append.1 hrule with hspliced | hrest
    · right
      rcases ihstate hspliced with hentry | hother
      · exact ⟨_, mem_of_find?_eq_some hfind, hentry⟩
      · exact hother
    · exact (ihrest hrest).imp_left (List.mem_cons_of_mem _)

theorem target_mem (hexpands : table.Expands entries rules) {target : String}
    (htarget : .splice target ∈ entries) : target ∈ table.names := by
  induction hexpands with
  | nil => cases htarget
  | rule _ ih =>
    rcases List.mem_cons.1 htarget with heq | hrest
    · cases heq
    · exact ih hrest
  | splice hfind _ _ _ ih =>
    rcases List.mem_cons.1 htarget with heq | hrest
    · obtain rfl := Entry.splice.inj heq
      exact exists_find?_iff.1 ⟨_, hfind⟩
    · exact ih hrest

/-- A state on a cycle splices another state on that cycle, so a finite expansion meets none. -/
theorem not_cycle (hnames : table.names.Nodup) (hexpands : table.Expands entries rules)
    {target : String} (htarget : .splice target ∈ entries) :
    ¬ Relation.TransGen table.Splices target target := by
  induction hexpands generalizing target with
  | nil => cases htarget
  | rule _ ih =>
    rcases List.mem_cons.1 htarget with heq | hrest
    · cases heq
    · exact ih hrest
  | @splice _ state _ _ _ hfind _ _ ihstate ihrest =>
    rcases List.mem_cons.1 htarget with heq | hrest
    · obtain rfl := Entry.splice.inj heq
      intro hcycle
      obtain ⟨next, ⟨other, hother, hname, hentry⟩, hback⟩ := Relation.TransGen.head'_iff.1 hcycle
      have hsame : state = other :=
        eq_of_mem_of_name_eq hnames (mem_of_find?_eq_some hfind) hother
          ((name_of_find?_eq_some hfind).trans hname.symm)
      rw [← hsame] at hentry
      exact ihstate hentry (.tail' hback (splices_of_find?_eq_some hfind hentry))
    · exact ihrest hrest

end Expands

end RuleTable

namespace Lexer

open RuleTable

/-- What holds of all longer chains of table states holds of a chain: splicing ends because there
is no longest chain to start from but one that has all states. -/
theorem chainInduction (table : RuleTable) {motive : List String → Prop}
    (step : ∀ chain, (∀ state ∈ table, state.name ∉ chain → motive (state.name :: chain)) →
      motive chain) (chain : List String) : motive chain := by
  induction hroom : outside table chain using Nat.strongRecOn generalizing chain with
  | ind room ih =>
    apply step
    intro state hstate hchain
    have hless : outside table (state.name :: chain) < room := by
      rw [← hroom]
      exact outside_cons_lt hstate hchain
    exact ih _ hless _ rfl

theorem splice_eq_ok_iff {table : RuleTable} {chain : List String}
    {state : { state // state ∈ table }} {placed : List PlacedRule} :
    splice table chain state = .ok placed ↔ state.val.name ∉ chain ∧
      spliceEntries table (state.val.name :: chain) state.val.name 0 state.val.entries =
        .ok placed := by
  rw [splice]
  by_cases hchain : state.val.name ∈ chain
  · rw [dif_pos hchain]
    constructor
    · intro herror
      cases herror
    · intro hok
      exact absurd hchain hok.1
  · rw [dif_neg hchain]
    constructor
    · intro hentries
      exact ⟨hchain, hentries⟩
    · intro hok
      exact hok.2

theorem spliceEntries_nil (table : RuleTable) (chain : List String) (name : String) (index : Nat) :
    spliceEntries table chain name index [] = .ok [] := by
  rw [spliceEntries]

theorem spliceEntries_rule_eq_ok_iff {table : RuleTable} {chain : List String} {name : String}
    {index : Nat} {rule : LexTable.Rule} {entries : List Entry} {placed : List PlacedRule} :
    spliceEntries table chain name index (.rule rule :: entries) = .ok placed ↔
      ∃ rules, spliceEntries table chain name (index + 1) entries = .ok rules ∧
        ⟨rule, .entry name index⟩ :: rules = placed := by
  rw [spliceEntries, Except.bind_eq_ok_iff]
  simp only [Except.ok.injEq]

theorem spliceEntries_splice_eq_ok_iff {table : RuleTable} {chain : List String} {name : String}
    {index : Nat} {target : String} {entries : List Entry} {placed : List PlacedRule} :
    spliceEntries table chain name index (.splice target :: entries) = .ok placed ↔
      ∃ state, ∃ hfind : table.find? target = some state, ∃ spliced rules,
        splice table chain ⟨state, mem_of_find?_eq_some hfind⟩ = .ok spliced ∧
          spliceEntries table chain name (index + 1) entries = .ok rules ∧
            spliced ++ rules = placed := by
  rw [spliceEntries]
  split
  · next hnone =>
    constructor
    · intro herror
      cases herror
    · rintro ⟨state, hfind, -⟩
      exact absurd (hnone.symm.trans hfind) (Option.some_ne_none state).symm
  · next state hfind =>
    simp only [Except.bind_eq_ok_iff, Except.ok.injEq]
    constructor
    · rintro ⟨spliced, hspliced, rules, hrules, hplaced⟩
      exact ⟨state, hfind, spliced, rules, hspliced, hrules, hplaced⟩
    · rintro ⟨other, hother, spliced, rules, hspliced, hrules, hplaced⟩
      obtain rfl := Option.some.inj (hfind.symm.trans hother)
      exact ⟨spliced, hspliced, rules, hrules, hplaced⟩

theorem spliceEntries_expands {table : RuleTable} {chain : List String} {name : String}
    {index : Nat} {entries : List Entry} {placed : List PlacedRule}
    (hsplice : ∀ state placed, splice table chain state = .ok placed →
      table.Expands state.val.entries (placed.map (·.rule)))
    (hentries : spliceEntries table chain name index entries = .ok placed) :
    table.Expands entries (placed.map (·.rule)) := by
  induction entries generalizing index placed with
  | nil =>
    rw [spliceEntries_nil] at hentries
    cases hentries
    exact .nil
  | cons entry entries ih =>
    cases entry with
    | rule rule =>
      obtain ⟨rules, hrules, rfl⟩ := spliceEntries_rule_eq_ok_iff.1 hentries
      exact .rule (ih hrules)
    | splice target =>
      obtain ⟨state, hfind, spliced, rules, hspliced, hrules, rfl⟩ :=
        spliceEntries_splice_eq_ok_iff.1 hentries
      rw [List.map_append]
      exact .splice hfind (hsplice _ _ hspliced) (ih hrules)

/-- Splicing gives the expansion. -/
theorem splice_expands {table : RuleTable} {chain : List String}
    {state : { state // state ∈ table }} {placed : List PlacedRule}
    (hsplice : splice table chain state = .ok placed) :
    table.Expands state.val.entries (placed.map (·.rule)) := by
  induction chain using chainInduction table generalizing state placed with
  | step chain ih =>
    obtain ⟨hchain, hentries⟩ := splice_eq_ok_iff.1 hsplice
    apply spliceEntries_expands _ hentries
    intro next spliced hnext
    exact ih state.val state.property hchain hnext

theorem exists_spliceEntries {table : RuleTable} {chain : List String} (name : String)
    (index : Nat) {entries : List Entry}
    (hdefined : ∀ target, .splice target ∈ entries → target ∈ table.names)
    (hsplice : ∀ state, .splice state.val.name ∈ entries →
      ∃ placed, splice table chain state = .ok placed) :
    ∃ placed, spliceEntries table chain name index entries = .ok placed := by
  induction entries generalizing index with
  | nil => exact ⟨[], spliceEntries_nil table chain name index⟩
  | cons entry entries ih =>
    have hrest : ∃ rules, spliceEntries table chain name (index + 1) entries = .ok rules := by
      apply ih
      · intro target htarget
        exact hdefined target (List.mem_cons_of_mem _ htarget)
      · intro state hstate
        exact hsplice state (List.mem_cons_of_mem _ hstate)
    obtain ⟨rules, hrules⟩ := hrest
    cases entry with
    | rule rule => exact ⟨_, spliceEntries_rule_eq_ok_iff.2 ⟨rules, hrules, rfl⟩⟩
    | splice target =>
      obtain ⟨state, hfind⟩ := exists_find?_iff.2 (hdefined target (List.mem_cons_self ..))
      have hname : state.name = target := name_of_find?_eq_some hfind
      have hspliced : ∃ spliced,
          splice table chain ⟨state, mem_of_find?_eq_some hfind⟩ = .ok spliced := by
        apply hsplice
        rw [hname]
        exact List.mem_cons_self ..
      obtain ⟨spliced, hspliced⟩ := hspliced
      exact ⟨_, spliceEntries_splice_eq_ok_iff.2
        ⟨state, hfind, spliced, rules, hspliced, hrules, rfl⟩⟩

/-- The chain of states that are being spliced is a path to the state, so on a table without
cycles the state is not in it. -/
theorem exists_splice {table : RuleTable} {chain : List String}
    {state : { state // state ∈ table }}
    (hdefined : ∀ state ∈ table, ∀ target, .splice target ∈ state.entries → target ∈ table.names)
    (hacyclic : ∀ name, ¬ Relation.TransGen table.Splices name name)
    (hpath : ∀ name ∈ chain, Relation.TransGen table.Splices name state.val.name) :
    ∃ placed, splice table chain state = .ok placed := by
  induction chain using chainInduction table generalizing state with
  | step chain ih =>
    have hchain : state.val.name ∉ chain := by
      intro hmem
      exact hacyclic _ (hpath _ hmem)
    have hentries : ∃ placed, spliceEntries table (state.val.name :: chain) state.val.name 0
        state.val.entries = .ok placed := by
      apply exists_spliceEntries _ _ (hdefined state.val state.property)
      intro next hnext
      have hstep : table.Splices state.val.name next.val.name :=
        ⟨state.val, state.property, rfl, hnext⟩
      apply ih state.val state.property hchain
      intro name hname
      rcases List.mem_cons.1 hname with rfl | hearlier
      · exact .single hstep
      · exact (hpath name hearlier).tail hstep
    obtain ⟨placed, hplaced⟩ := hentries
    exact ⟨placed, splice_eq_ok_iff.2 ⟨hchain, hplaced⟩⟩

end Lexer

end LexTable
