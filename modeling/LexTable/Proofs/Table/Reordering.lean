import LexTable.Proofs.Lexer.Agreement
import LexTable.Proofs.Lexer.StateStack
import Mathlib.Data.List.Find
import Mathlib.Data.List.Perm.Basic

/-!
# The order of states

The states of a table are found by their names, which differ. So a table whose states stand in
another order is accepted alike, and its lexer has the same states in that order. What the lexers
show is the same, and their stacks of places correspond by the number that each state has got.
-/

namespace LexTable

open Lexer

theorem find?_eq_of_perm {α : Type} {key : α → String} {xs ys : List α} (hperm : xs.Perm ys)
    (hnodup : (xs.map key).Nodup) (name : String) :
    xs.find? (key · == name) = ys.find? (key · == name) := by
  apply List.find?_eq_find?_of_perm hperm
  rintro x ⟨hx, hxname⟩ y ⟨hy, hyname⟩
  have hkeys : key x = key y := (beq_iff_eq.1 hxname).trans (beq_iff_eq.1 hyname).symm
  exact List.inj_on_of_nodup_map hnodup hx hy hkeys

namespace RuleTable

section

variable {table reordered : RuleTable} (hperm : List.Perm table reordered)
  (hnodup : table.names.Nodup)

include hperm hnodup

theorem expands_of_perm {entries : List Entry} {rules : List Rule}
    (hexpands : table.Expands entries rules) : reordered.Expands entries rules := by
  induction hexpands with
  | nil => exact .nil
  | rule _ ih => exact .rule ih
  | @splice target state _ _ _ hfind _ _ ihstate ihrest =>
    have hsame : reordered.find? target = some state :=
      (find?_eq_of_perm hperm hnodup target).symm.trans hfind
    exact .splice hsame ihstate ihrest

theorem compiles_of_perm {reader : PatternReader} {entry : StateEntry} {state : State}
    (hstate : table.Compiles reader entry state) : reordered.Compiles reader entry state := by
  have hnames : table.names ⊆ reordered.names := (hperm.map _).subset
  obtain ⟨hname, rules, hexpands, hreads⟩ := hstate
  refine ⟨hname, rules, expands_of_perm hperm hnodup hexpands, ?_⟩
  exact hreads.imp fun _ _ hread ↦ hread.of_names_subset hnames

end

/-- The lexer of a reordered table is the lexer of the table with its states reordered. -/
theorem exists_build_of_perm {table reordered : RuleTable} (hperm : List.Perm table reordered)
    {initial : String} {reader : PatternReader} {lexer : Lexer}
    (hbuild : build table initial reader = .ok lexer) :
    ∃ other, build reordered initial reader = .ok other ∧ other.states.Perm lexer.states ∧
      other.initial = lexer.initial := by
  obtain ⟨hnodup, hinitial, hcompiles, hlexer⟩ := build_eq_ok_iff_compiles.1 hbuild
  obtain ⟨states, hstates, hsame⟩ := List.perm_comp_forall₂ hperm.symm hcompiles
  have hnames : List.Perm table.names reordered.names := hperm.map _
  refine ⟨{ states, initial }, build_eq_ok_iff_compiles.2 ⟨?_, ?_, ?_, rfl⟩, hsame, ?_⟩
  · exact hnames.nodup_iff.1 hnodup
  · exact hnames.mem_iff.1 hinitial
  · exact hstates.imp fun _ _ hstate ↦ compiles_of_perm hperm hnodup hstate
  · rw [hlexer]

end RuleTable

namespace Lexer

theorem sameRules_of_perm {lexer other : Lexer} (hinitial : other.initial = lexer.initial)
    (hperm : other.states.Perm lexer.states) (hnodup : (other.states.map (·.name)).Nodup) :
    lexer.SameRules other where
  initial_eq := hinitial
  rulesOf_eq name := by
    have hfind : other.find? name = lexer.find? name := find?_eq_of_perm hperm hnodup name
    rw [rulesOf, rulesOf, hfind]

/-- The place in `other` of the state at a place in `lexer`. -/
def placeIn (lexer other : Lexer) (place : Nat) : Nat :=
  (lexer.states[place]?).elim other.states.length fun state ↦ other.placeOf state.name

theorem placeIn_placeOf {lexer : Lexer} (other : Lexer) {name : String}
    (hname : name ∈ lexer.states.map (·.name)) :
    lexer.placeIn other (lexer.placeOf name) = other.placeOf name := by
  obtain ⟨state, hstate, rfl⟩ := exists_getElem?_placeOf hname
  rw [placeIn, hstate]
  rfl

theorem getElem?_placeIn {lexer other : Lexer} (hperm : other.states.Perm lexer.states)
    (hnodup : (other.states.map (·.name)).Nodup) {place : Nat}
    (hplace : place < lexer.states.length) :
    other.states[lexer.placeIn other place]? = lexer.states[place]? := by
  have hstate : lexer.states[place] ∈ other.states := hperm.mem_iff.2 (List.getElem_mem hplace)
  obtain ⟨found, hfound, hname⟩ := exists_getElem?_placeOf (List.mem_map_of_mem hstate)
  have hsame : found = lexer.states[place] :=
    List.inj_on_of_nodup_map hnodup (List.mem_of_getElem? hfound) hstate hname
  rw [placeIn, List.getElem?_eq_getElem hplace]
  exact hfound.trans (congrArg some hsame)

/-- Two runs that enter the same states have corresponding stacks of places. -/
theorem Aligned.map_placeIn {lexer other : Lexer} {places others : List Nat}
    {pushed : List String} (haligned : lexer.Aligned places pushed)
    (hother : other.Aligned others pushed) (hinitial : other.initial = lexer.initial) :
    others = places.map (lexer.placeIn other) := by
  rw [hother.places_eq, haligned.places_eq, hinitial, List.map_map]
  apply List.map_congr_left
  intro name hname
  exact (placeIn_placeOf other (haligned.names_mem name hname)).symm

end Lexer

namespace RuleTable

/-- A reordered table is accepted alike. The lexers give the same tokens and, after each pull, the
same place and state. A state has the same rules under its old number and under its new one, and
the numbers on the two stacks are always those of the same states. -/
theorem reordering_irrelevant {table reordered : RuleTable} (hperm : List.Perm table reordered)
    (initial : String) (reader : PatternReader) :
    ((∃ lexer, build table initial reader = .ok lexer) ↔
      ∃ other, build reordered initial reader = .ok other) ∧
    ∀ lexer other, build table initial reader = .ok lexer →
      build reordered initial reader = .ok other →
      (∀ text, other.tokenize text = lexer.tokenize text) ∧
      (∀ text count, (Cursor.start text).showings other count =
        (Cursor.start text).showings lexer count) ∧
      (∀ place < lexer.states.length,
        other.states[lexer.placeIn other place]? = lexer.states[place]?) ∧
      ∀ text count, other.places ((Cursor.start text).events other count) =
        (lexer.places ((Cursor.start text).events lexer count)).map (lexer.placeIn other) := by
  refine ⟨?_, ?_⟩
  · constructor
    · rintro ⟨lexer, hbuild⟩
      obtain ⟨other, hother, -, -⟩ := exists_build_of_perm hperm hbuild
      exact ⟨other, hother⟩
    · rintro ⟨other, hother⟩
      obtain ⟨lexer, hbuild, -, -⟩ := exists_build_of_perm hperm.symm hother
      exact ⟨lexer, hbuild⟩
  · intro lexer other hbuild hother
    obtain ⟨found, hfound, hstates, hinitial⟩ := exists_build_of_perm hperm hbuild
    obtain rfl : other = found := Except.ok.inj (hother.symm.trans hfound)
    have hnodup := nodup_of_build hother
    have hsame := sameRules_of_perm hinitial hstates hnodup
    refine ⟨hsame.tokenize_eq, fun text count ↦ hsame.showings_eq count _, ?_, ?_⟩
    · intro place hplace
      exact getElem?_placeIn hstates hnodup hplace
    · intro text count
      have hclosed := closed_of_build hbuild
      have hothers := closed_of_build hother
      have haligned : lexer.Aligned (lexer.places ((Cursor.start text).events lexer count))
          ((Cursor.start text).after lexer count).pushed :=
        hclosed.aligned_after hclosed.aligned_initial count
      have hmoved : other.Aligned (other.places ((Cursor.start text).events other count))
          ((Cursor.start text).after other count).pushed :=
        hothers.aligned_after hothers.aligned_initial count
      rw [(hsame.agree count _).after_eq] at hmoved
      exact haligned.map_placeIn hmoved hinitial

theorem reordering_irrelevant_brackets : List.Perm brackets brackets.reverse ∧
    ∃ lexer other, build brackets "outside" = .ok lexer ∧
      build brackets.reverse "outside" = .ok other ∧
      lexer.places ((Cursor.start "(()").events lexer 1) = [1, 0] ∧
      other.places ((Cursor.start "(()").events other 1) = [1, 0].map (lexer.placeIn other) ∧
      (Cursor.start "(()").showings other 1 =
        [⟨some ⟨.punctuation, "(", ⟨0, 1⟩⟩, 1, "inside"⟩] := by
  have hperm : List.Perm brackets brackets.reverse := (List.reverse_perm brackets).symm
  have hrun : (build brackets "outside").toOption.map (fun lexer ↦
      (lexer.places ((Cursor.start "(()").events lexer 1),
        (Cursor.start "(()").showings lexer 1)) =
      some ([1, 0], [⟨some ⟨.punctuation, "(", ⟨0, 1⟩⟩, 1, "inside"⟩]) := by
    cbv
  obtain ⟨lexer, hbuild, hshown⟩ := Except.map_toOption_eq_some_iff.1 hrun
  obtain ⟨hplaces, hshowings⟩ := Prod.mk.inj hshown
  obtain ⟨haccepted, hlaws⟩ := reordering_irrelevant hperm "outside" lineReader
  obtain ⟨other, hother⟩ := haccepted.1 ⟨lexer, hbuild⟩
  obtain ⟨-, hsame, -, hnumbers⟩ := hlaws lexer other hbuild hother
  exact ⟨hperm, lexer, other, hbuild, hother, hplaces, hplaces ▸ hnumbers "(()" 1,
    (hsame "(()" 1).trans hshowings⟩

end RuleTable

end LexTable
