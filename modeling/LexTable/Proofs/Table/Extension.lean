import LexTable.Proofs.Lexer.Agreement
import LexTable.Proofs.Lexer.StateStack

/-!
# Further rules at the end of a state

Rules that are written after the entries of a state which no state splices are tried only where no
rule of the state has a match that is not empty. So the lexer of the longer table pulls what the
lexer of the shorter one pulls, up to the first place where that one has no rule to apply.
-/

namespace LexTable

open Lexer

namespace RuleTable

/-- The state has further rules after its entries, or none if a state of the table splices it. -/
structure Appends (table : RuleTable) (state longer : StateEntry) : Prop where
  name_eq : longer.name = state.name
  exists_rules : ∃ more : List Rule, longer.entries = state.entries ++ more.map .rule ∧
    (more ≠ [] → ∀ user, ¬ table.Splices user state.name)

theorem Appends.refl (table : RuleTable) (state : StateEntry) : table.Appends state state where
  name_eq := rfl
  exists_rules := ⟨[], by simp, fun hnil ↦ absurd rfl hnil⟩

/-- The states in their order, each as it was or with further rules. -/
def Extends (table longer : RuleTable) : Prop :=
  List.Forall₂ table.Appends table longer

namespace Extends

variable {table longer : RuleTable} {initial : String} {reader : PatternReader}
  {lexer extended : Lexer}

theorem names_eq (hextends : table.Extends longer) : longer.names = table.names :=
  (map_eq_map_of_forall₂ (hextends.imp fun _ _ happends ↦ happends.name_eq.symm)).symm

theorem exists_find? {states others : RuleTable}
    (hall : List.Forall₂ table.Appends states others) {key : String} {state : StateEntry}
    (hfind : states.find? key = some state) :
    ∃ other, others.find? key = some other ∧ table.Appends state other := by
  unfold RuleTable.find? at *
  induction hall with
  | nil => cases hfind
  | @cons first second states others hfirst _ ih =>
    rw [List.find?_cons] at hfind ⊢
    rw [hfirst.name_eq]
    cases hkey : first.name == key with
    | true =>
      simp only [hkey] at hfind
      obtain rfl := Option.some.inj hfind
      exact ⟨second, rfl, hfirst⟩
    | false =>
      simp only [hkey] at hfind
      exact ih hfind

/-- A state that is spliced has not become longer, so what is spliced stays the same. -/
theorem expands (hextends : table.Extends longer) {entries : List Entry} {rules : List Rule}
    (hspliced : ∀ target, .splice target ∈ entries → ∃ user, table.Splices user target)
    (hexpands : table.Expands entries rules) : longer.Expands entries rules := by
  induction hexpands with
  | nil => exact .nil
  | rule _ ih =>
    apply Expands.rule
    apply ih
    intro target htarget
    exact hspliced target (List.mem_cons_of_mem _ htarget)
  | @splice target state entries spliced rules hfind _ _ ihstate ihrest =>
    obtain ⟨user, huser⟩ := hspliced target (List.mem_cons_self ..)
    obtain ⟨other, hother, -, more, hentries, hunspliced⟩ := exists_find? hextends hfind
    have hnone : more = [] := by
      by_contra hmore
      rw [name_of_find?_eq_some hfind] at hunspliced
      exact hunspliced hmore user huser
    have hsame : other.entries = state.entries := by
      rw [hentries, hnone, List.map_nil, List.append_nil]
    apply Expands.splice hother
    · rw [hsame]
      apply ihstate
      intro inner hinner
      exact ⟨target, splices_of_find?_eq_some hfind hinner⟩
    · apply ihrest
      intro target htarget
      exact hspliced target (List.mem_cons_of_mem _ htarget)

/-- The rules of a state come first in the longer state. -/
theorem exists_rules_append (hextends : table.Extends longer) {entry other : StateEntry}
    {state extension : State} (hentry : entry ∈ table) (happends : table.Appends entry other)
    (hstate : table.Compiles reader entry state)
    (hextension : longer.Compiles reader other extension) :
    ∃ more, extension.rules = state.rules ++ more := by
  obtain ⟨-, rules, hexpands, hreads⟩ := hstate
  obtain ⟨-, longerRules, hlonger, hlongerReads⟩ := hextension
  obtain ⟨-, more, hentries, -⟩ := happends
  have hspliced : ∀ target, .splice target ∈ entry.entries →
      ∃ user, table.Splices user target := by
    intro target htarget
    exact ⟨entry.name, entry, hentry, rfl, htarget⟩
  have happended : longer.Expands other.entries (rules ++ more) := by
    rw [hentries]
    exact (hextends.expands hspliced hexpands).append (expands_rules longer more)
  rw [hlonger.unique happended] at hlongerReads
  have hfirst := List.forall₂_take rules.length hlongerReads
  rw [List.take_left] at hfirst
  have hsame : extension.rules.take rules.length = state.rules := by
    apply (Reads.rightUnique longer reader).forall₂ hfirst
    exact hreads.imp fun _ _ hread ↦ hread.of_names_subset (hextends.names_eq ▸ List.Subset.refl _)
  refine ⟨extension.rules.drop rules.length, ?_⟩
  rw [← hsame, List.take_append_drop]

theorem exists_rulesOf_append (hextends : table.Extends longer)
    (hbuild : build table initial reader = .ok lexer)
    (hextended : build longer initial reader = .ok extended) (name : String) :
    ∃ more, extended.rulesOf name = lexer.rulesOf name ++ more := by
  cases hfind : lexer.find? name with
  | none =>
    refine ⟨extended.rulesOf name, ?_⟩
    simp [Lexer.rulesOf, hfind]
  | some state =>
    have hname : state.name = name := by simpa using List.find?_some hfind
    obtain ⟨entry, hentry, hstate⟩ :=
      exists_of_forall₂_mem (build_compiles hbuild).flip (List.mem_of_find?_eq_some hfind)
    obtain ⟨other, hother, happends⟩ := exists_of_forall₂_mem hextends hentry
    obtain ⟨extension, hfound, hextension⟩ := exists_find?_of_build hextended hother
    have hkey : other.name = name := by rw [happends.name_eq, ← hstate.name_eq, hname]
    rw [hkey] at hfound
    obtain ⟨more, hmore⟩ := hextends.exists_rules_append hentry happends hstate hextension
    refine ⟨more, ?_⟩
    simp [Lexer.rulesOf, hfind, hfound, hmore]

end Extends

end RuleTable

namespace Lexer

theorem firstMatch?_append {before : Option Char} {rest : List Char} {rules : List Rule}
    {found : Rule × Match} (hfirst : firstMatch? before rest rules = some found)
    (more : List Rule) : firstMatch? before rest (rules ++ more) = some found := by
  induction rules with
  | nil => cases hfirst
  | cons rule rules ih =>
    rw [List.cons_append]
    unfold firstMatch? at hfirst ⊢
    cases hmatch : rule.regex.match? before rest with
    | none =>
      rw [hmatch] at hfirst
      exact ih hfirst
    | some m =>
      rw [hmatch] at hfirst
      dsimp only at hfirst ⊢
      split
      · next hempty =>
        rw [if_pos hempty] at hfirst
        exact ih hfirst
      · next hnonempty =>
        rw [if_neg hnonempty] at hfirst
        exact hfirst

/-- The other lexer starts in the same state, and in every state it tries further rules last. -/
structure TriesFurther (lexer other : Lexer) : Prop where
  initial_eq : other.initial = lexer.initial
  exists_rulesOf : ∀ name, ∃ more, other.rulesOf name = lexer.rulesOf name ++ more

namespace TriesFurther

variable {lexer other : Lexer}

/-- Further rules count only where there was no rule to apply. -/
theorem pull_eq (hfurther : lexer.TriesFurther other) {cursor : Cursor}
    (happlied : ∀ event ∈ cursor.pullEvents lexer, ∃ rule, event = .applied rule) :
    cursor.pull other = cursor.pull lexer := by
  have hstate : cursor.state other = cursor.state lexer := by
    rw [Cursor.state, Cursor.state, hfurther.initial_eq]
  have hfill : cursor.fill other = cursor.fill lexer := by
    unfold Cursor.pullEvents at happlied
    unfold Cursor.fill
    split
    · next hempty =>
      rw [if_pos hempty, List.forall_mem_singleton] at happlied
      obtain ⟨rule, hrule⟩ := happlied
      unfold Cursor.event at hrule
      unfold Cursor.step
      rw [hstate]
      obtain ⟨more, hmore⟩ := hfurther.exists_rulesOf (cursor.state lexer)
      rw [hmore]
      cases hfirst : firstMatch? cursor.before cursor.rest
          (lexer.rulesOf (cursor.state lexer)) with
      | none =>
        rw [hfirst] at hrule
        dsimp only at hrule
        split at hrule <;> cases hrule
      | some found => rw [firstMatch?_append hfirst more]
    · rfl
  rw [Cursor.pull, Cursor.pull, hfill]

theorem agree (hfurther : lexer.TriesFurther other) {count : Nat} {cursor : Cursor}
    (happlied : ∀ event ∈ cursor.events lexer count, ∃ rule, event = .applied rule) :
    Cursor.Agree lexer other count cursor := by
  induction count generalizing cursor with
  | zero => exact trivial
  | succ count ih =>
    rw [Cursor.events, List.forall_mem_append] at happlied
    exact ⟨hfurther.pull_eq happlied.1, ih happlied.2⟩

end TriesFurther

end Lexer

namespace RuleTable

/-- As long as the lexer of the shorter table has a rule to apply, both lexers give the same
tokens, places and states. On a text in which it always has one, all tokens are the same. -/
theorem extension_keeps_matches {table longer : RuleTable} {initial : String}
    {reader : PatternReader} {lexer extended : Lexer} (hextends : table.Extends longer)
    (hbuild : build table initial reader = .ok lexer)
    (hextended : build longer initial reader = .ok extended) (text : String) :
    (∀ count, (∀ event ∈ (Cursor.start text).events lexer count, ∃ rule, event = .applied rule) →
      (Cursor.start text).showings extended count = (Cursor.start text).showings lexer count) ∧
    ((∀ count, ∀ event ∈ (Cursor.start text).events lexer count, ∃ rule, event = .applied rule) →
      extended.tokenize text = lexer.tokenize text) := by
  have hinitial : extended.initial = lexer.initial := by
    obtain ⟨-, -, -, hlexer⟩ := build_eq_ok_iff_compiles.1 hbuild
    obtain ⟨-, -, -, hother⟩ := build_eq_ok_iff_compiles.1 hextended
    rw [hlexer, hother]
  have hfurther : lexer.TriesFurther extended :=
    ⟨hinitial, hextends.exists_rulesOf_append hbuild hextended⟩
  refine ⟨?_, ?_⟩
  · intro count happlied
    exact (hfurther.agree happlied).showings_eq hinitial
  · intro happlied
    exact tokenize_eq_of_agree (hfurther.agree (happlied _))

/-- The brackets of `brackets`, with words inside them. -/
def bracketedWords : RuleTable :=
  [⟨"outside", [.rule ⟨"\\(", .token .punctuation, some (.push "inside")⟩]⟩,
    ⟨"inside", [.splice "outside", .rule ⟨"\\)", .token .punctuation, some .pop⟩,
      .rule ⟨"\\)*", .token .error, none⟩, .rule ⟨"[a-z]+", .token .name, none⟩]⟩]

theorem brackets_extends : brackets.Extends bracketedWords := by
  have hunspliced : ∀ user, ¬ brackets.Splices user "inside" := by
    rintro user ⟨state, hstate, -, hentry⟩
    simp only [brackets, List.mem_cons, List.not_mem_nil, or_false] at hstate
    rcases hstate with rfl | rfl <;> simp at hentry
  exact .cons (.refl brackets _) (.cons ⟨rfl,
    [⟨"\\)*", .token .error, none⟩, ⟨"[a-z]+", .token .name, none⟩], rfl, fun _ ↦ hunspliced⟩ .nil)

theorem extension_keeps_matches_brackets : ∃ lexer extended,
    build brackets "outside" = .ok lexer ∧ build bracketedWords "outside" = .ok extended ∧
    (∀ event ∈ (Cursor.start "(()a").events lexer 3, ∃ rule, event = .applied rule) ∧
    (Cursor.start "(()a").showings extended 3 =
      [⟨some ⟨.punctuation, "(", ⟨0, 1⟩⟩, 1, "inside"⟩,
        ⟨some ⟨.punctuation, "(", ⟨1, 2⟩⟩, 2, "inside"⟩,
        ⟨some ⟨.punctuation, ")", ⟨2, 3⟩⟩, 3, "inside"⟩] := by
  have hshort : (build brackets "outside").toOption.map (fun lexer ↦
      (((Cursor.start "(()a").events lexer 3).all fun event ↦ ∃ rule, event = .applied rule,
        (Cursor.start "(()a").showings lexer 3)) = some (true,
      [⟨some ⟨.punctuation, "(", ⟨0, 1⟩⟩, 1, "inside"⟩,
        ⟨some ⟨.punctuation, "(", ⟨1, 2⟩⟩, 2, "inside"⟩,
        ⟨some ⟨.punctuation, ")", ⟨2, 3⟩⟩, 3, "inside"⟩]) := by
    cbv
  have hlong : (build bracketedWords "outside").toOption.map (·.states.length) = some 2 := by cbv
  obtain ⟨lexer, hbuild, hrun⟩ := Except.map_toOption_eq_some_iff.1 hshort
  obtain ⟨extended, hextended, -⟩ := Except.map_toOption_eq_some_iff.1 hlong
  obtain ⟨hevents, hshowings⟩ := Prod.mk.inj hrun
  have happlied : ∀ event ∈ (Cursor.start "(()a").events lexer 3,
      ∃ rule, event = .applied rule := by simpa using hevents
  obtain ⟨hkeeps, -⟩ := extension_keeps_matches brackets_extends hbuild hextended "(()a"
  exact ⟨lexer, extended, hbuild, hextended, happlied, (hkeeps 3 happlied).trans hshowings⟩

end RuleTable

end LexTable
