import LexTable.Proofs.Table.Expansion

/-!
# Which tables are accepted

A rule table becomes a lexer exactly if it is well formed: its state names differ, every name that
it uses is one of them, no state splices itself through others, and every rule can be read. A
defect counts wherever it stands, also in states that are never entered. Which texts are patterns,
and how many groups they have, is up to the reader of patterns.
-/

namespace LexTable

open Lexer

namespace RuleTable

/-- One of the states has the entry. -/
def Contains (table : RuleTable) (entry : Entry) : Prop :=
  ∃ state ∈ table, entry ∈ state.entries

/-- What building checks, where `reader` reads the patterns. -/
structure WellFormed (table : RuleTable) (initial : String) (reader : PatternReader) : Prop where
  names_nodup : table.names.Nodup
  initial_mem : initial ∈ table.names
  target_mem : ∀ target, table.Contains (.splice target) → target ∈ table.names
  acyclic : ∀ name, ¬ Relation.TransGen table.Splices name name
  pattern_valid : ∀ rule, table.Contains (.rule rule) →
    ∃ regex, reader rule.pattern = .ok regex
  groups_fit : ∀ rule, table.Contains (.rule rule) → ∀ kinds regex,
    rule.action = .byGroups kinds → reader rule.pattern = .ok regex →
      kinds ≠ [] ∧ kinds.length ≤ regex.groupCount
  push_mem : ∀ rule, table.Contains (.rule rule) → ∀ target,
    rule.next = some (.push target) → target ∈ table.names

/-- The rule of the table, made ready to run. -/
structure Reads (table : RuleTable) (reader : PatternReader) (rule : Rule) (ready : Lexer.Rule) :
    Prop where
  regex_eq : reader rule.pattern = .ok ready.regex
  action_eq : ready.action = rule.action
  next_eq : ready.next = rule.next
  groups_fit : ∀ kinds, rule.action = .byGroups kinds →
    kinds ≠ [] ∧ kinds.length ≤ ready.regex.groupCount
  push_mem : ∀ target, rule.next = some (.push target) → target ∈ table.names

theorem Reads.rightUnique (table : RuleTable) (reader : PatternReader) :
    Relator.RightUnique (table.Reads reader) := by
  intro rule ready other hready hother
  obtain ⟨regex, action, next⟩ := ready
  obtain ⟨regex', action', next'⟩ := other
  obtain rfl : regex = regex' := Except.ok.inj (hready.regex_eq.symm.trans hother.regex_eq)
  obtain rfl : action = action' := hready.action_eq.trans hother.action_eq.symm
  obtain rfl : next = next' := hready.next_eq.trans hother.next_eq.symm
  rfl

theorem Reads.of_names_subset {table other : RuleTable} {reader : PatternReader} {rule : Rule}
    {ready : Lexer.Rule} (hready : table.Reads reader rule ready)
    (hnames : table.names ⊆ other.names) : other.Reads reader rule ready :=
  { hready with push_mem := fun target hpush ↦ hnames (hready.push_mem target hpush) }

/-- The state made ready to run: what its entries expand to, each rule read. -/
structure Compiles (table : RuleTable) (reader : PatternReader) (entry : StateEntry)
    (state : State) : Prop where
  name_eq : state.name = entry.name
  exists_rules : ∃ rules, table.Expands entry.entries rules ∧
    List.Forall₂ (table.Reads reader) rules state.rules

theorem Compiles.rightUnique (table : RuleTable) (reader : PatternReader) :
    Relator.RightUnique (table.Compiles reader) := by
  intro entry state other hstate hother
  obtain ⟨name, ready⟩ := state
  obtain ⟨name', ready'⟩ := other
  obtain ⟨hname, rules, hexpands, hreads⟩ := hstate
  obtain ⟨hname', rules', hexpands', hreads'⟩ := hother
  obtain rfl : name = name' := hname.trans hname'.symm
  obtain rfl : rules = rules' := hexpands.unique hexpands'
  obtain rfl : ready = ready' := (Reads.rightUnique table reader).forall₂ hreads hreads'
  rfl

end RuleTable

namespace Lexer

open RuleTable

variable {reader : PatternReader}

theorem readPattern_eq_ok_iff {pattern : String} {location : Location} {regex : Regex} :
    readPattern reader pattern location = .ok regex ↔ reader pattern = .ok regex :=
  Except.mapError_eq_ok_iff

theorem lineReader_eq_ok_iff {pattern : String} {regex : Regex} :
    lineReader pattern = .ok regex ↔ Pattern.parse ruleFlags pattern.toList = .ok regex :=
  Except.mapError_eq_ok_iff

theorem checkGroups_eq_ok_iff {pattern : String} {action : Action} {groups : Nat}
    {location : Location} :
    checkGroups pattern action groups location = .ok () ↔
      ∀ kinds, action = .byGroups kinds → kinds ≠ [] ∧ kinds.length ≤ groups := by
  cases action with
  | token kind => simp [checkGroups]
  | byGroups kinds =>
    simp only [Action.byGroups.injEq, forall_eq', checkGroups]
    split
    · next hbad =>
      have hor : kinds = [] ∨ groups < kinds.length := by simpa using hbad
      constructor
      · intro herror
        cases herror
      · rintro ⟨hne, hle⟩
        rcases hor with hnil | hlt
        · exact absurd hnil hne
        · omega
    · next hgood =>
      have hboth : kinds ≠ [] ∧ kinds.length ≤ groups := by simpa using hgood
      exact iff_of_true rfl hboth

theorem checkTransition_eq_ok_iff {table : RuleTable} {next : Option Transition}
    {location : Location} :
    checkTransition table next location = .ok () ↔
      ∀ target, next = some (.push target) → target ∈ table.names := by
  unfold checkTransition
  split
  · next target =>
    simp only [Option.some.injEq, Transition.push.injEq, forall_eq']
    split
    · next hmem => exact iff_of_true rfl (List.contains_iff_mem.1 hmem)
    · next hmem =>
      constructor
      · intro herror
        cases herror
      · intro htarget
        exact absurd (List.contains_iff_mem.2 htarget) hmem
  · next hother =>
    apply iff_of_true rfl
    intro target htarget
    exact absurd htarget (hother target)

theorem readRule_eq_ok_iff {table : RuleTable} {placed : PlacedRule} {ready : Rule} :
    readRule reader table placed = .ok ready ↔ table.Reads reader placed.rule ready := by
  unfold readRule
  simp only [Except.bind_eq_ok_iff, readPattern_eq_ok_iff, Except.ok.injEq]
  constructor
  · rintro ⟨regex, hregex, ⟨⟩, hgroups, ⟨⟩, htransition, rfl⟩
    exact ⟨hregex, rfl, rfl, checkGroups_eq_ok_iff.1 hgroups,
      checkTransition_eq_ok_iff.1 htransition⟩
  · intro hreads
    obtain ⟨regex, action, next⟩ := ready
    obtain ⟨hregex, haction, hnext, hgroups, hpush⟩ := hreads
    refine ⟨regex, hregex, (), checkGroups_eq_ok_iff.2 hgroups, (),
      checkTransition_eq_ok_iff.2 hpush, ?_⟩
    rw [← haction, ← hnext]

theorem exists_forall₂ {α β : Type} {R : α → β → Prop} {xs : List α}
    (hxs : ∀ x ∈ xs, ∃ y, R x y) : ∃ ys, List.Forall₂ R xs ys := by
  induction xs with
  | nil => exact ⟨[], .nil⟩
  | cons x xs ih =>
    obtain ⟨⟨y, hy⟩, hrest⟩ := List.forall_mem_cons.1 hxs
    obtain ⟨ys, hys⟩ := ih hrest
    exact ⟨y :: ys, .cons hy hys⟩

theorem exists_of_forall₂_mem {α β : Type} {R : α → β → Prop} {xs : List α} {ys : List β}
    (hxs : List.Forall₂ R xs ys) {x : α} (hx : x ∈ xs) : ∃ y ∈ ys, R x y := by
  induction hxs with
  | nil => cases hx
  | cons hhead _ ih =>
    rcases List.mem_cons.1 hx with rfl | hrest
    · exact ⟨_, List.mem_cons_self .., hhead⟩
    · obtain ⟨y, hy, hR⟩ := ih hrest
      exact ⟨y, List.mem_cons_of_mem _ hy, hR⟩

theorem map_eq_map_of_forall₂ {α β γ : Type} {f : α → γ} {g : β → γ} {xs : List α} {ys : List β}
    (hxs : List.Forall₂ (fun x y ↦ f x = g y) xs ys) : xs.map f = ys.map g := by
  induction hxs with
  | nil => rfl
  | cons hhead _ ih => rw [List.map_cons, List.map_cons, hhead, ih]

theorem readState_eq_ok_iff {table : RuleTable} {entry : { entry // entry ∈ table }}
    {state : State} :
    readState reader table entry = .ok state ↔ state.name = entry.val.name ∧
      ∃ placed, splice table [] entry = .ok placed ∧
        List.Forall₂ (table.Reads reader) (placed.map (·.rule)) state.rules := by
  unfold readState
  simp only [Except.bind_eq_ok_iff, Except.mapM_eq_ok_iff, readRule_eq_ok_iff, Except.ok.injEq,
    List.forall₂_map_left_iff]
  constructor
  · rintro ⟨placed, hplaced, rules, hrules, rfl⟩
    exact ⟨rfl, placed, hplaced, hrules⟩
  · rintro ⟨hname, placed, hplaced, hrules⟩
    exact ⟨placed, hplaced, state.rules, hrules, by rw [← hname]⟩

theorem firstRepeated_eq_none_iff {seen names : List String} :
    firstRepeated seen names = none ↔ names.Nodup ∧ ∀ name ∈ names, name ∉ seen := by
  induction names generalizing seen with
  | nil => simp [firstRepeated]
  | cons name names ih =>
    unfold firstRepeated
    rw [List.nodup_cons, List.forall_mem_cons]
    split
    · next hseen =>
      have hmem := List.contains_iff_mem.1 hseen
      constructor
      · intro hsome
        cases hsome
      · rintro ⟨-, hfresh, -⟩
        exact absurd hmem hfresh
    · next hseen =>
      have hmem : name ∉ seen := by
        intro hmem
        exact hseen (List.contains_iff_mem.2 hmem)
      rw [ih]
      constructor
      · rintro ⟨hnodup, hfresh⟩
        have hname : name ∉ names := by
          intro hname
          exact hfresh name hname (List.mem_cons_self ..)
        refine ⟨⟨hname, hnodup⟩, hmem, ?_⟩
        intro other hother hold
        exact hfresh other hother (List.mem_cons_of_mem _ hold)
      · rintro ⟨⟨hname, hnodup⟩, -, hfresh⟩
        refine ⟨hnodup, ?_⟩
        intro other hother hold
        rcases List.mem_cons.1 hold with rfl | hold
        · exact hname hother
        · exact hfresh other hother hold

/-- The checks of a table as a whole come first, then its states are read in order. -/
theorem build_eq_ok_iff {table : RuleTable} {initial : String} {lexer : Lexer} :
    build table initial reader = .ok lexer ↔ table.names.Nodup ∧ initial ∈ table.names ∧
      ∃ states, table.attach.mapM (readState reader table) = .ok states ∧
        lexer = { states, initial } := by
  unfold build
  split
  · next name hrepeated =>
    constructor
    · intro herror
      cases herror
    · rintro ⟨hnodup, -⟩
      have hnone : firstRepeated [] table.names = none :=
        firstRepeated_eq_none_iff.2 ⟨hnodup, fun _ _ ↦ List.not_mem_nil⟩
      exact absurd (hrepeated.symm.trans hnone) (Option.some_ne_none name)
  · next hnone =>
    have hnodup := (firstRepeated_eq_none_iff.1 hnone).1
    split
    · next hinitial =>
      have hmem := List.contains_iff_mem.1 hinitial
      simp only [Except.bind_eq_ok_iff, Except.ok.injEq]
      constructor
      · rintro ⟨states, hstates, rfl⟩
        exact ⟨hnodup, hmem, states, hstates, rfl⟩
      · rintro ⟨-, -, states, hstates, rfl⟩
        exact ⟨states, hstates, rfl⟩
    · next hinitial =>
      constructor
      · intro herror
        cases herror
      · rintro ⟨-, hmem, -⟩
        exact absurd (List.contains_iff_mem.2 hmem) hinitial

theorem build_compiles {table : RuleTable} {initial : String} {lexer : Lexer}
    (hbuild : build table initial reader = .ok lexer) :
    List.Forall₂ (table.Compiles reader) table lexer.states := by
  obtain ⟨-, -, states, hstates, rfl⟩ := build_eq_ok_iff.1 hbuild
  have hone (entry : { entry // entry ∈ table }) (state : State)
      (hstate : readState reader table entry = .ok state) :
      table.Compiles reader entry.val state := by
    obtain ⟨hname, placed, hplaced, hrules⟩ := readState_eq_ok_iff.1 hstate
    exact ⟨hname, _, splice_expands hplaced, hrules⟩
  have hcompiles : List.Forall₂ (table.Compiles reader) (table.attach.map Subtype.val) states := by
    rw [List.forall₂_map_left_iff]
    exact (Except.mapM_eq_ok_iff.1 hstates).imp hone
  rwa [List.attach_map_subtype_val] at hcompiles

/-- Every rule of a lexer is one that its table describes. -/
theorem exists_reads_of_build {table : RuleTable} {initial : String} {lexer : Lexer}
    (hbuild : build table initial reader = .ok lexer) {state : State}
    (hstate : state ∈ lexer.states) {ready : Rule} (hready : ready ∈ state.rules) :
    ∃ rule, table.Reads reader rule ready := by
  obtain ⟨entry, -, -, rules, -, hreads⟩ :=
    exists_of_forall₂_mem (build_compiles hbuild).flip hstate
  obtain ⟨rule, -, hrule⟩ := exists_of_forall₂_mem hreads.flip hready
  exact ⟨rule, hrule⟩

end Lexer

namespace RuleTable

/-- A cycle has no expansion, so the states of a table that has a reading are in order. -/
theorem wellFormed_of_compiles {table : RuleTable} {initial : String} {reader : PatternReader}
    {states : List State}
    (hnodup : table.names.Nodup) (hinitial : initial ∈ table.names)
    (hall : List.Forall₂ (table.Compiles reader) table states) :
    table.WellFormed initial reader := by
  have hcompiles (state : StateEntry) (hstate : state ∈ table) : ∃ rules,
      table.Expands state.entries rules ∧
        ∀ rule ∈ rules, ∃ ready, table.Reads reader rule ready := by
    obtain ⟨compiled, -, -, rules, hexpands, hreads⟩ := exists_of_forall₂_mem hall hstate
    refine ⟨rules, hexpands, ?_⟩
    intro rule hrule
    obtain ⟨ready, -, hready⟩ := exists_of_forall₂_mem hreads hrule
    exact ⟨ready, hready⟩
  have hready (rule : Rule) (hrule : table.Contains (.rule rule)) :
      ∃ ready, table.Reads reader rule ready := by
    obtain ⟨state, hstate, hentry⟩ := hrule
    obtain ⟨rules, hexpands, hreads⟩ := hcompiles state hstate
    exact hreads rule (hexpands.mem_of_rule_mem hentry)
  refine ⟨hnodup, hinitial, ?_, ?_, ?_, ?_, ?_⟩
  · rintro target ⟨state, hstate, hentry⟩
    obtain ⟨rules, hexpands, -⟩ := hcompiles state hstate
    exact hexpands.target_mem hentry
  · intro name hcycle
    obtain ⟨next, ⟨state, hstate, rfl, hentry⟩, hback⟩ := Relation.TransGen.head'_iff.1 hcycle
    obtain ⟨rules, hexpands, -⟩ := hcompiles state hstate
    exact hexpands.not_cycle hnodup hentry (.tail' hback ⟨state, hstate, rfl, hentry⟩)
  · intro rule hrule
    obtain ⟨ready, hreads⟩ := hready rule hrule
    exact ⟨ready.regex, hreads.regex_eq⟩
  · intro rule hrule kinds regex hkinds hregex
    obtain ⟨ready, hreads⟩ := hready rule hrule
    obtain rfl : ready.regex = regex := Except.ok.inj (hreads.regex_eq.symm.trans hregex)
    exact hreads.groups_fit kinds hkinds
  · intro rule hrule
    obtain ⟨ready, hreads⟩ := hready rule hrule
    exact hreads.push_mem

theorem WellFormed.exists_reads {table : RuleTable} {initial : String} {reader : PatternReader}
    (htable : table.WellFormed initial reader) {rule : Rule} (hrule : table.Contains (.rule rule)) :
    ∃ ready, table.Reads reader rule ready := by
  obtain ⟨regex, hregex⟩ := htable.pattern_valid rule hrule
  refine ⟨⟨regex, rule.action, rule.next⟩, hregex, rfl, rfl, ?_, ?_⟩
  · intro kinds hkinds
    exact htable.groups_fit rule hrule kinds regex hkinds hregex
  · exact htable.push_mem rule hrule

theorem WellFormed.exists_build {table : RuleTable} {initial : String} {reader : PatternReader}
    (htable : table.WellFormed initial reader) :
    ∃ lexer, build table initial reader = .ok lexer := by
  have hstates : ∀ entry ∈ table.attach, ∃ state, readState reader table entry = .ok state := by
    intro entry _
    have hsplice : ∃ placed, splice table [] entry = .ok placed := by
      apply exists_splice
      · intro state hstate target hentry
        exact htable.target_mem target ⟨state, hstate, hentry⟩
      · exact htable.acyclic
      · intro name hname
        cases hname
    obtain ⟨placed, hplaced⟩ := hsplice
    have hrules : ∀ rule ∈ placed.map (·.rule), ∃ ready, table.Reads reader rule ready := by
      intro rule hrule
      apply htable.exists_reads
      rcases (splice_expands hplaced).rule_mem_of_mem hrule with hentry | hother
      · exact ⟨entry.val, entry.property, hentry⟩
      · exact hother
    obtain ⟨ready, hready⟩ := exists_forall₂ hrules
    exact ⟨⟨entry.val.name, ready⟩, readState_eq_ok_iff.2 ⟨rfl, placed, hplaced, hready⟩⟩
  obtain ⟨states, hall⟩ := exists_forall₂ hstates
  exact ⟨{ states, initial }, build_eq_ok_iff.2
    ⟨htable.names_nodup, htable.initial_mem, states, Except.mapM_eq_ok_iff.2 hall, rfl⟩⟩

/-- The lexer of a table has the states that the table describes. -/
theorem build_eq_ok_iff_compiles {table : RuleTable} {initial : String} {reader : PatternReader}
    {lexer : Lexer} :
    build table initial reader = .ok lexer ↔ table.names.Nodup ∧ initial ∈ table.names ∧
      List.Forall₂ (table.Compiles reader) table lexer.states ∧
        lexer = { states := lexer.states, initial } := by
  constructor
  · intro hbuild
    obtain ⟨hnodup, hinitial, states, -, rfl⟩ := build_eq_ok_iff.1 hbuild
    exact ⟨hnodup, hinitial, build_compiles hbuild, rfl⟩
  · rintro ⟨hnodup, hinitial, hcompiles, hlexer⟩
    obtain ⟨other, hbuild⟩ := (wellFormed_of_compiles hnodup hinitial hcompiles).exists_build
    have hstates : other.states = lexer.states :=
      (Compiles.rightUnique table reader).forall₂ (build_compiles hbuild) hcompiles
    obtain ⟨-, -, states, -, rfl⟩ := build_eq_ok_iff.1 hbuild
    rw [hbuild, hlexer, ← hstates]

/-- A table is accepted exactly if it is well formed, whatever reads its patterns. -/
theorem build_succeeds_iff (table : RuleTable) (initial : String) (reader : PatternReader) :
    (∃ lexer, build table initial reader = .ok lexer) ↔ table.WellFormed initial reader := by
  constructor
  · rintro ⟨lexer, hbuild⟩
    obtain ⟨hnodup, hinitial, -⟩ := build_eq_ok_iff.1 hbuild
    exact wellFormed_of_compiles hnodup hinitial (build_compiles hbuild)
  · exact WellFormed.exists_build

end RuleTable

end LexTable
