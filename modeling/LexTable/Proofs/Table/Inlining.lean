import LexTable.Proofs.Lexer.Refinement
import LexTable.Proofs.Table.Acceptance

/-!
# Splicing is inlining

A state of a lexer has the rules to which the entries of the table expand, in order. So the entries
of a state can be written out where the state is spliced: the table is still accepted, and the
lexer that it describes is the same.
-/

namespace LexTable

open Lexer

namespace RuleTable

/-- The tables differ in one state `name`, which has `others` in place of `entries`. -/
inductive Differ (name : String) (entries others : List Entry) : RuleTable → RuleTable → Prop
  | here (after : RuleTable) : Differ name entries others (⟨name, entries⟩ :: after)
      (⟨name, others⟩ :: after)
  | there (state : StateEntry) {before after : RuleTable}
      (hrest : Differ name entries others before after) :
      Differ name entries others (state :: before) (state :: after)

namespace Differ

variable {name : String} {entries others : List Entry} {table other : RuleTable}

theorem append (before after : RuleTable) : Differ name entries others
    (before ++ ⟨name, entries⟩ :: after) (before ++ ⟨name, others⟩ :: after) := by
  induction before with
  | nil => exact .here after
  | cons state before ih => exact .there state ih

theorem names_eq (hdiffer : Differ name entries others table other) :
    table.names = other.names := by
  induction hdiffer with
  | here => rfl
  | there state _ ih => exact congrArg (state.name :: ·) ih

theorem changed_mem (hdiffer : Differ name entries others table other) :
    ⟨name, entries⟩ ∈ table := by
  induction hdiffer with
  | here => exact List.mem_cons_self ..
  | there _ _ ih => exact List.mem_cons_of_mem _ ih

/-- Where the changed state is not found, the same state is found as before. -/
theorem find? (hdiffer : Differ name entries others table other) {key : String}
    {state : StateEntry} (hfind : table.find? key = some state) :
    other.find? key = some state ∨
      state = ⟨name, entries⟩ ∧ other.find? key = some ⟨name, others⟩ := by
  induction hdiffer with
  | here after =>
    unfold RuleTable.find? at *
    rw [List.find?_cons] at hfind ⊢
    cases hname : name == key with
    | true =>
      simp only [hname] at hfind
      exact .inr ⟨(Option.some.inj hfind).symm, rfl⟩
    | false =>
      simp only [hname] at hfind
      exact .inl hfind
  | there first _ ih =>
    unfold RuleTable.find? at *
    rw [List.find?_cons] at hfind ⊢
    cases hname : first.name == key with
    | true =>
      simp only [hname] at hfind
      exact .inl hfind
    | false =>
      simp only [hname] at hfind
      exact ih hfind

theorem forall₂ (hdiffer : Differ name entries others table other)
    {R S : StateEntry → State → Prop} {states : List State} (hstates : List.Forall₂ R table states)
    (hsame : ∀ entry state, R entry state → S entry state)
    (hchanged : ∀ state, R ⟨name, entries⟩ state → S ⟨name, others⟩ state) :
    List.Forall₂ S other states := by
  induction hdiffer generalizing states with
  | here after =>
    cases hstates with
    | cons hstate hrest => exact .cons (hchanged _ hstate) (hrest.imp hsame)
  | there first _ ih =>
    cases hstates with
    | cons hstate hrest => exact .cons (hsame _ _ hstate) (ih hrest)

end Differ

namespace Expands

variable {table : RuleTable} {entries more : List Entry} {rules others : List Rule}

theorem append (hexpands : table.Expands entries rules) (hmore : table.Expands more others) :
    table.Expands (entries ++ more) (rules ++ others) := by
  induction hexpands with
  | nil => exact hmore
  | rule _ ih => exact .rule ih
  | splice hfind hstate _ _ ih =>
    rw [List.append_assoc]
    exact .splice hfind hstate ih

theorem exists_append (hexpands : table.Expands (entries ++ more) rules) :
    ∃ first second, rules = first ++ second ∧ table.Expands entries first ∧
      table.Expands more second := by
  induction entries generalizing rules with
  | nil => exact ⟨[], rules, rfl, .nil, hexpands⟩
  | cons entry entries ih =>
    cases hexpands with
    | rule hrest =>
      obtain ⟨first, second, rfl, hfirst, hsecond⟩ := ih hrest
      exact ⟨_ :: first, second, rfl, .rule hfirst, hsecond⟩
    | splice hfind hstate hrest =>
      obtain ⟨first, second, rfl, hfirst, hsecond⟩ := ih hrest
      exact ⟨_ ++ first, second, (List.append_assoc ..).symm, .splice hfind hstate hfirst, hsecond⟩

theorem inline {target : String} {inner : StateEntry} {earlier later : List Entry}
    (hfind : table.find? target = some inner)
    (hexpands : table.Expands (earlier ++ .splice target :: later) rules) :
    table.Expands (earlier ++ inner.entries ++ later) rules := by
  obtain ⟨first, second, rfl, hfirst, hsecond⟩ := hexpands.exists_append
  cases hsecond with
  | splice hother hinner hlater =>
    obtain rfl := Option.some.inj (hfind.symm.trans hother)
    rw [← List.append_assoc]
    exact (hfirst.append hinner).append hlater

end Expands

section inline

variable {table other : RuleTable} {name target : String} {earlier later : List Entry}
  {inner : StateEntry}

/-- A state that is spliced is another one than the state that splices it. -/
theorem Differ.find?_target {others : List Entry} {rules : List Rule}
    (hdiffer : Differ name (earlier ++ .splice target :: later) others table other)
    (hnodup : table.names.Nodup)
    (hexpands : table.Expands (earlier ++ .splice target :: later) rules)
    (hinner : table.find? target = some inner) : other.find? target = some inner := by
  rcases hdiffer.find? hinner with hfind | ⟨hself, -⟩
  · exact hfind
  · have hmem : .splice target ∈ earlier ++ .splice target :: later :=
      List.mem_append_right _ (List.mem_cons_self ..)
    have hentry : .splice target ∈ inner.entries := by rwa [hself]
    have hcycle : Relation.TransGen table.Splices target target :=
      .single (splices_of_find?_eq_some hinner hentry)
    exact absurd hcycle (hexpands.not_cycle hnodup hmem)

/-- What entries expand to does not change where a state is written out. -/
theorem Differ.expands
    (hdiffer : Differ name (earlier ++ .splice target :: later) (earlier ++ inner.entries ++ later)
      table other)
    (htarget : other.find? target = some inner) {entries : List Entry} {rules : List Rule}
    (hexpands : table.Expands entries rules) : other.Expands entries rules := by
  induction hexpands with
  | nil => exact .nil
  | rule _ ih => exact .rule ih
  | splice hfind _ _ ihstate ihrest =>
    rcases hdiffer.find? hfind with hsame | ⟨rfl, hchanged⟩
    · exact .splice hsame ihstate ihrest
    · exact .splice hchanged (ihstate.inline htarget) ihrest

theorem Differ.compiles {reader : PatternReader} {states : List State}
    (hdiffer : Differ name (earlier ++ .splice target :: later) (earlier ++ inner.entries ++ later)
      table other)
    (htarget : other.find? target = some inner)
    (hcompiles : List.Forall₂ (table.Compiles reader) table states) :
    List.Forall₂ (other.Compiles reader) other states := by
  have hreads (rule : Rule) (ready : Lexer.Rule) (hready : table.Reads reader rule ready) :
      other.Reads reader rule ready :=
    hready.of_names_subset (hdiffer.names_eq ▸ List.Subset.refl _)
  apply hdiffer.forall₂ hcompiles
  · rintro entry state ⟨hname, rules, hexpands, hrules⟩
    exact ⟨hname, rules, hdiffer.expands htarget hexpands, hrules.imp hreads⟩
  · rintro state ⟨hname, rules, hexpands, hrules⟩
    have hspliced := hdiffer.expands htarget hexpands
    exact ⟨hname, rules, hspliced.inline htarget, hrules.imp hreads⟩

/-- A table in which a spliced state is written out gives the same lexer. -/
theorem Differ.build_eq {initial : String} {reader : PatternReader} {lexer : Lexer}
    (hdiffer : Differ name (earlier ++ .splice target :: later) (earlier ++ inner.entries ++ later)
      table other)
    (hinner : table.find? target = some inner)
    (hbuild : build table initial reader = .ok lexer) :
    build other initial reader = .ok lexer := by
  obtain ⟨hnodup, hinitial, hcompiles, hlexer⟩ := build_eq_ok_iff_compiles.1 hbuild
  have htarget : other.find? target = some inner := by
    obtain ⟨state, -, -, rules, hexpands, -⟩ := exists_of_forall₂_mem hcompiles hdiffer.changed_mem
    exact hdiffer.find?_target hnodup hexpands hinner
  rw [hdiffer.names_eq] at hnodup hinitial
  exact build_eq_ok_iff_compiles.2
    ⟨hnodup, hinitial, hdiffer.compiles htarget hcompiles, hlexer⟩

end inline

section compiled

variable {table : RuleTable} {initial : String} {reader : PatternReader} {lexer : Lexer}

theorem names_of_compiles {states : List State}
    (hcompiles : List.Forall₂ (table.Compiles reader) table states) :
    states.map (·.name) = table.names :=
  (map_eq_map_of_forall₂ (hcompiles.imp fun _ _ hstate ↦ hstate.name_eq.symm)).symm

theorem nodup_of_build (hbuild : build table initial reader = .ok lexer) :
    (lexer.states.map (·.name)).Nodup := by
  obtain ⟨hnodup, -, hcompiles, -⟩ := build_eq_ok_iff_compiles.1 hbuild
  rwa [names_of_compiles hcompiles]

/-- Every state of the table is found in its lexer. -/
theorem exists_find?_of_build (hbuild : build table initial reader = .ok lexer)
    {entry : StateEntry} (hentry : entry ∈ table) :
    ∃ state, lexer.find? entry.name = some state ∧ table.Compiles reader entry state := by
  obtain ⟨state, hstate, hready⟩ := exists_of_forall₂_mem (build_compiles hbuild) hentry
  have hsome : (lexer.find? entry.name).isSome := by
    unfold Lexer.find?
    rw [List.find?_isSome]
    exact ⟨state, hstate, beq_iff_eq.2 hready.name_eq⟩
  obtain ⟨found, hfound⟩ := Option.isSome_iff_exists.1 hsome
  have hname : found.name = entry.name := by simpa using List.find?_some hfound
  obtain rfl : found = state :=
    List.inj_on_of_nodup_map (nodup_of_build hbuild) (List.mem_of_find?_eq_some hfound) hstate
      (hname.trans hready.name_eq.symm)
  exact ⟨found, hfound, hready⟩

end compiled

/-- The states of a lexer are those of the table, in order, each with the rules to which its
entries expand. Wherever a state is spliced, its entries can be written out instead: the table is
still accepted, and with the same rules in each state all that is read with the lexer is the
same. -/
theorem build_inlines {table : RuleTable} {initial : String} {reader : PatternReader}
    {lexer : Lexer} (hbuild : build table initial reader = .ok lexer) :
    lexer.states.map (·.name) = table.names ∧
      (∀ entry ∈ table, ∃ rules, table.Expands entry.entries rules ∧
        List.Forall₂ (table.Reads reader) rules (lexer.rulesOf entry.name) ∧
        lexer.ruleCount? entry.name = some rules.length) ∧
      ∀ before after name earlier target later,
        table = before ++ ⟨name, earlier ++ .splice target :: later⟩ :: after →
        ∃ inner inlined, table.find? target = some inner ∧
          build (before ++ ⟨name, earlier ++ inner.entries ++ later⟩ :: after) initial reader =
            .ok inlined ∧
          inlined.states = lexer.states ∧
          ∀ text limit, (inlined.trace text limit).map (Cursor.reading inlined) =
            (lexer.trace text limit).map (Cursor.reading lexer) := by
  refine ⟨names_of_compiles (build_compiles hbuild), ?_, ?_⟩
  · intro entry hentry
    obtain ⟨state, hfind, -, rules, hexpands, hreads⟩ := exists_find?_of_build hbuild hentry
    refine ⟨rules, hexpands, ?_, ?_⟩
    · rwa [Lexer.rulesOf, hfind]
    · rw [Lexer.ruleCount?, hfind, hreads.length_eq]
      rfl
  · intro before after name earlier target later htable
    have hmem : ⟨name, earlier ++ .splice target :: later⟩ ∈ table := by simp [htable]
    have hdefined : target ∈ table.names := by
      obtain ⟨state, -, -, rules, hexpands, -⟩ := exists_find?_of_build hbuild hmem
      exact hexpands.target_mem (List.mem_append_right _ (List.mem_cons_self ..))
    obtain ⟨inner, hinner⟩ := exists_find?_iff.2 hdefined
    have hdiffer : Differ name (earlier ++ .splice target :: later)
        (earlier ++ inner.entries ++ later) table
        (before ++ ⟨name, earlier ++ inner.entries ++ later⟩ :: after) := by
      rw [htable]
      exact .append before after
    exact ⟨inner, lexer, hinner, hdiffer.build_eq hinner hbuild, rfl, fun _ _ ↦ rfl⟩

theorem build_inlines_pair : ∃ lexer inlined,
    build [⟨"root", [.rule ⟨"a", .token .name, none⟩, .splice "pair"]⟩,
        ⟨"pair", [.rule ⟨"(b)(c)", .byGroups [.number, .operator], some (.push "pair")⟩]⟩]
      "root" = .ok lexer ∧ lexer.ruleCount? "root" = some 2 ∧
    build [⟨"root", [.rule ⟨"a", .token .name, none⟩,
          .rule ⟨"(b)(c)", .byGroups [.number, .operator], some (.push "pair")⟩]⟩,
        ⟨"pair", [.rule ⟨"(b)(c)", .byGroups [.number, .operator], some (.push "pair")⟩]⟩]
      "root" = .ok inlined ∧ inlined.states = lexer.states := by
  have hcount : (build [⟨"root", [.rule ⟨"a", .token .name, none⟩, .splice "pair"]⟩,
        ⟨"pair", [.rule ⟨"(b)(c)", .byGroups [.number, .operator], some (.push "pair")⟩]⟩]
      "root").toOption.bind (·.ruleCount? "root") = some 2 := by cbv
  cases hbuild : build [⟨"root", [.rule ⟨"a", .token .name, none⟩, .splice "pair"]⟩,
        ⟨"pair", [.rule ⟨"(b)(c)", .byGroups [.number, .operator], some (.push "pair")⟩]⟩]
      "root" with
  | error error =>
    rw [hbuild] at hcount
    cases hcount
  | ok lexer =>
    rw [hbuild] at hcount
    obtain ⟨-, -, hinline⟩ := build_inlines hbuild
    obtain ⟨inner, inlined, hinner, hinlined, hstates, -⟩ :=
      hinline [] _ "root" [.rule ⟨"a", .token .name, none⟩] "pair" [] rfl
    obtain rfl := Option.some.inj hinner
    exact ⟨lexer, inlined, rfl, hcount, hinlined, hstates⟩

end RuleTable

end LexTable
