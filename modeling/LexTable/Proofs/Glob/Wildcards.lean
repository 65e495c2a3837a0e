import LexTable.Proofs.Glob.Brackets

/-!
# Wildcards

A file name pattern without brackets is never refused. The names that it accepts are told by a
recursion over the pattern, in which only asterisks and question marks do not stand for themselves.
A match anywhere in a name is a match of the whole name.
-/

namespace LexTable.Glob

/-- How a name is read along a pattern that has no brackets. -/
def FitsWildcards : List Char → List Char → Prop
  | [], name => name = []
  | '*' :: glob, name => ∃ run rest, name = run ++ rest ∧ '\n' ∉ run ∧ FitsWildcards glob rest
  | '?' :: glob, name => ∃ c rest, name = c :: rest ∧ c ≠ '\n' ∧ FitsWildcards glob rest
  | c :: glob, name => ∃ rest, name = c :: rest ∧ FitsWildcards glob rest

theorem fitsWildcards_plain {c : Char} (hstar : c ≠ '*') (hmark : c ≠ '?')
    (glob name : List Char) : FitsWildcards (c :: glob) name ↔
      ∃ rest, name = c :: rest ∧ FitsWildcards glob rest := by
  rw [FitsWildcards]
  · exact hstar
  · exact hmark

/-- The expression matches at some place in the name. -/
def Compiled.Finds (glob : Compiled) (name : String) : Prop :=
  ∃ before rest, name.toList = before ++ rest ∧
    (glob.regex.match? before.getLast? rest).isSome

/-- The piece that a character makes outside brackets. -/
def wildcard (c : Char) : Piece :=
  if c = '*' then .anyText else if c = '?' then .anyChar else .char c

theorem wildcard_of_plain {c : Char} (hstar : c ≠ '*') (hmark : c ≠ '?') :
    wildcard c = .char c := by
  rw [wildcard, if_neg hstar, if_neg hmark]

theorem plain_wildcard (c : Char) : (wildcard c).Plain := by
  unfold wildcard
  split
  · trivial
  · split <;> trivial

theorem not_reversed_wildcard (c : Char) : ¬ (wildcard c).Reversed := by
  unfold wildcard
  split
  · exact id
  · split <;> exact id

theorem reads_wildcards {glob : List Char} (hglob : '[' ∉ glob) :
    Reads glob (glob.map wildcard) := by
  induction glob with
  | nil => exact .nil
  | cons c glob ih =>
    rw [List.mem_cons, not_or] at hglob
    have hrest := ih hglob.2
    by_cases hstar : c = '*'
    · subst hstar
      exact .anyText hrest
    by_cases hmark : c = '?'
    · subst hmark
      exact .anyChar hrest
    rw [List.map_cons, wildcard_of_plain hstar hmark]
    exact .char (by simp [hstar, hmark, Ne.symm hglob.1]) hrest

theorem fits_cons_iff (piece : Piece) (pieces : List Piece) (name : List Char) :
    Fits (piece :: pieces) name ↔
      ∃ cs ds, name = cs ++ ds ∧ piece.Covers cs ∧ Fits pieces ds := by
  constructor
  · rintro ⟨⟩
    exact ⟨_, _, rfl, ‹_›, ‹_›⟩
  · rintro ⟨cs, ds, rfl, hpiece, hpieces⟩
    exact .cons hpiece hpieces

/-- The pieces of a pattern fit the names that are read along it. -/
theorem fits_wildcards_iff (glob name : List Char) :
    Fits (glob.map wildcard) name ↔ FitsWildcards glob name := by
  induction glob generalizing name with
  | nil =>
    rw [FitsWildcards]
    constructor
    · rintro ⟨⟩
      rfl
    · rintro rfl
      exact .nil
  | cons c glob ih =>
    rw [List.map_cons, fits_cons_iff]
    simp only [ih]
    by_cases hstar : c = '*'
    · subst hstar
      rw [FitsWildcards]
      constructor
      · rintro ⟨_, rest, hname, ⟨hrun⟩, hrest⟩
        exact ⟨_, rest, hname, hrun, hrest⟩
      · rintro ⟨run, rest, hname, hrun, hrest⟩
        exact ⟨run, rest, hname, .anyText hrun, hrest⟩
    by_cases hmark : c = '?'
    · subst hmark
      rw [FitsWildcards]
      constructor
      · rintro ⟨_, rest, hname, _ | hc, hrest⟩
        exact ⟨_, rest, hname, hc, hrest⟩
      · rintro ⟨c, rest, hname, hc, hrest⟩
        exact ⟨[c], rest, hname, .anyChar hc, hrest⟩
    · rw [wildcard_of_plain hstar hmark, fitsWildcards_plain hstar hmark]
      constructor
      · rintro ⟨_, rest, hname, ⟨⟩, hrest⟩
        exact ⟨rest, hname, hrest⟩
      · rintro ⟨rest, hname, hrest⟩
        exact ⟨[c], rest, hname, .char c, hrest⟩

/-- Behind the first character of a name there is no match: the expression begins at its start. -/
theorem match?_wholeRegex_eq_none (pieces : List Piece) (c : Char) (rest : List Char) :
    (wholeRegex pieces).match? (some c) rest = none := by
  rw [Regex.match?_eq (plain_wholeRegex pieces).steady, wholeRegex, Regex.ways_seqAll_cons]
  rfl

theorem finds_iff_accepts (pattern : String) (pieces : List Piece) (name : String) :
    Compiled.Finds ⟨pattern, wholeRegex pieces⟩ name ↔
      Compiled.accepts ⟨pattern, wholeRegex pieces⟩ name := by
  constructor
  · rintro ⟨before, rest, hname, hfound⟩
    rcases hlast : before.getLast? with _ | c
    · obtain rfl := List.getLast?_eq_none_iff.1 hlast
      rw [Compiled.accepts, hname]
      exact hfound
    · rw [hlast, match?_wholeRegex_eq_none] at hfound
      cases hfound
  · intro haccepts
    exact ⟨[], name.toList, rfl, haccepts⟩

/-- A pattern without brackets is compiled, and the names in which the expression finds a match are
those that are read along the pattern, from their start to their end. -/
theorem compile_wildcards (glob : String) (hglob : '[' ∉ glob.toList) :
    ∃ compiled, compile glob = .ok compiled ∧ ∀ name,
      (compiled.accepts name ↔ FitsWildcards glob.toList name.toList) ∧
      (compiled.Finds name ↔ FitsWildcards glob.toList name.toList) := by
  have hplain : ∀ piece ∈ glob.toList.map wildcard, piece.Plain :=
    List.forall_mem_map.2 fun c _ ↦ plain_wildcard c
  have hranges : ∀ piece ∈ glob.toList.map wildcard, ¬ piece.Reversed :=
    List.forall_mem_map.2 fun c _ ↦ not_reversed_wildcard c
  obtain ⟨pattern, hcompile⟩ := compile_of_reads (reads_wildcards hglob) hplain hranges
  refine ⟨_, hcompile, fun name ↦ ?_⟩
  have haccepts := (accepts_iff pattern (glob.toList.map wildcard) name).trans
    (fits_wildcards_iff glob.toList name.toList)
  exact ⟨haccepts, (finds_iff_accepts ..).trans haccepts⟩

/-- Two asterisks share a name between them, and the end of a line stands for itself. -/
theorem compile_wildcards_lines : '[' ∉ "*.(*\n?".toList ∧
    ∃ compiled, compile "*.(*\n?" = .ok compiled ∧
      compiled.accepts ".(.(\n+" ∧ compiled.Finds ".(.(\n+" := by
  have hglob : '[' ∉ "*.(*\n?".toList := by decide
  obtain ⟨compiled, hcompile, hnames⟩ := compile_wildcards "*.(*\n?" hglob
  obtain ⟨haccepts, hfinds⟩ := hnames ".(.(\n+"
  have hline : FitsWildcards "\n?".toList "\n+".toList :=
    ⟨['+'], rfl, '+', [], rfl, by decide, rfl⟩
  -- the first asterisk takes two characters, the second none
  have hfits : FitsWildcards "*.(*\n?".toList ".(.(\n+".toList :=
    ⟨".(".toList, ".(\n+".toList, rfl, by decide, "(\n+".toList, rfl, "\n+".toList, rfl,
      [], "\n+".toList, rfl, by decide, hline⟩
  exact ⟨hglob, compiled, hcompile, haccepts.2 hfits, hfinds.2 hfits⟩

end LexTable.Glob
