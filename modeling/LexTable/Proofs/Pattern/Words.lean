import LexTable.Proofs.Pattern.Literals

/-!
# Expressions for lists of words

The pattern for a list of words is always read without an error, as the alternatives that stand in
it: the words themselves, the longest first.
-/

namespace LexTable

open Pattern

/-- The expression for any of the words, the longest one preferred. -/
def WordList.choice (words : List String) : Regex :=
  .altAll ((WordList.longestFirst words).map fun word ↦ .text word.toList)

namespace Pattern

/-- The symbols of alternatives that stand for themselves. -/
def choiceSymbols (texts : List (List Char)) : List Symbol :=
  [Symbol.bar].intercalate (texts.map fun text ↦ text.map .literal)

theorem Scans.choice {rest : List Char} {symbols : List Symbol} (texts : List (List Char))
    (hrest : Scans rest symbols) :
    Scans (['|'].intercalate (texts.map WordList.literal) ++ rest)
      (choiceSymbols texts ++ symbols) := by
  induction texts with
  | nil => exact hrest
  | cons text texts ih =>
    cases texts with
    | nil => simpa [choiceSymbols] using Scans.literal text hrest
    | cons other others =>
      simpa [choiceSymbols, List.intercalate_cons_cons] using Scans.literal text (.bar ih)

/-- Alternatives that stand for themselves go on from the branch that is being read. -/
theorem State.foldlM_read_choice (state : State) (hcase : state.flags.ignoreCase = false)
    (text : List Char) (texts : List (List Char)) :
    ∃ here : Branches,
      (choiceSymbols (text :: texts)).foldlM State.read state = .ok { state with here := here } ∧
      here.regex = Regex.altAll (state.here.finished.reverse ++
        Regex.seqAll (state.here.items ++ Regex.characters text) :: texts.map Regex.text) := by
  induction texts generalizing state text with
  | nil =>
    refine ⟨state.here.addAll (Regex.characters text), ?_, ?_⟩
    · simpa [choiceSymbols] using state.foldlM_read_literals hcase text
    · rw [Branches.regex_eq, Branches.branch_eq, Branches.items_addAll, Branches.finished_addAll]
      rfl
  | cons other others ih =>
    let after : State := { state with here := (state.here.addAll (Regex.characters text)).bar }
    obtain ⟨here, hread, hregex⟩ := ih after hcase other
    refine ⟨here, ?_, ?_⟩
    · rw [choiceSymbols, List.map_cons, List.map_cons, List.intercalate_cons_cons,
        List.append_assoc, List.foldlM_append, state.foldlM_read_literals hcase]
      exact hread
    · rw [hregex, Branches.finished_bar, Branches.items_bar, Branches.branch_eq,
        Branches.items_addAll, Branches.finished_addAll, List.reverse_cons, List.append_assoc]
      rfl

/-- A group of alternatives is one more item of what is being read. -/
theorem State.foldlM_read_group (state : State) (hcase : state.flags.ignoreCase = false)
    (texts : List (List Char)) :
    (Symbol.openPlain [] :: choiceSymbols texts ++ [Symbol.close]).foldlM State.read state =
      .ok (state.add (Regex.altAll (texts.map Regex.text))) := by
  let inside : State := state.openGroup none
  have hopen : state.read (.openPlain []) = .ok inside := rfl
  have hinside : ∃ here : Branches,
      (choiceSymbols texts).foldlM State.read inside = .ok { inside with here := here } ∧
      here.regex = Regex.altAll (texts.map Regex.text) := by
    cases texts with
    | nil => exact ⟨{}, rfl, rfl⟩
    | cons text texts => exact inside.foldlM_read_choice hcase text texts
  obtain ⟨here, hread, hregex⟩ := hinside
  have hclose : State.read { inside with here := here } .close =
      .ok (state.add (Regex.altAll (texts.map Regex.text))) := by
    rw [← hregex]
    rfl
  rw [List.cons_append, List.foldlM_cons, hopen]
  change (choiceSymbols texts ++ [Symbol.close]).foldlM State.read inside = _
  rw [List.foldlM_append, hread]
  change [Symbol.close].foldlM State.read { inside with here := here } = _
  rw [List.foldlM_cons, hclose]
  rfl

theorem Scans.group {rest : List Char} {symbols : List Symbol} (texts : List (List Char))
    (hrest : Scans rest symbols) :
    Scans ("(?:".toList ++ ['|'].intercalate (texts.map WordList.literal) ++ ")".toList ++ rest)
      ((Symbol.openPlain [] :: choiceSymbols texts ++ [Symbol.close]) ++ symbols) := by
  simpa using Scans.openPlain (Scans.choice texts (Scans.close hrest))

end Pattern

/-- The pattern for words that stand alone. -/
theorem WordList.parse_pattern_boundaries (words : List String) (flags : Flags)
    (hcase : flags.ignoreCase = false) :
    Pattern.parse flags (pattern words "\\b" "\\b").toList =
      .ok (.seq (.look .wordBoundary) (.seq (choice words) (.look .wordBoundary))) := by
  let texts := (longestFirst words).map String.toList
  have hend : Scans "\\b".toList [.look .wordBoundary] := .wordBoundary (by simp) .nil
  have hscans := Scans.wordBoundary (by simp) (Scans.group texts hend)
  have hpattern : (pattern words "\\b" "\\b").toList =
      '\\' :: 'b' :: ("(?:".toList ++ ['|'].intercalate (texts.map literal) ++ ")".toList ++
        "\\b".toList) := by
    simp [pattern, texts, Function.comp_def]
  have hchoice : choice words = Regex.altAll (texts.map Regex.text) := by
    simp [choice, texts, Function.comp_def]
  let start : State := { flags }
  have hread : (Symbol.look .wordBoundary :: ((Symbol.openPlain [] :: choiceSymbols texts ++
      [Symbol.close]) ++ [.look .wordBoundary])).foldlM State.read start =
      .ok (((start.add (.look .wordBoundary)).add (choice words)).add (.look .wordBoundary)) := by
    rw [hchoice, List.foldlM_cons]
    change List.foldlM State.read (start.add (.look .wordBoundary)) (_ ++ _) = _
    rw [List.foldlM_append, State.foldlM_read_group (start.add (.look .wordBoundary)) hcase]
    rfl
  rw [hpattern, parse, hscans.scan_eq]
  change (do (← List.foldlM State.read start _).finish) = _
  rw [hread]
  rfl

/-- The pattern for words wherever they stand. -/
theorem WordList.parse_pattern_plain (words : List String) (flags : Flags)
    (hcase : flags.ignoreCase = false) :
    Pattern.parse flags (pattern words "" "").toList = .ok (choice words) := by
  let texts := (longestFirst words).map String.toList
  have hscans := Scans.group texts .nil
  have hpattern : (pattern words "" "").toList =
      "(?:".toList ++ ['|'].intercalate (texts.map literal) ++ ")".toList ++ [] := by
    simp [pattern, texts, Function.comp_def]
  have hchoice : choice words = Regex.altAll (texts.map Regex.text) := by
    simp [choice, texts, Function.comp_def]
  let start : State := { flags }
  have hread : ((Symbol.openPlain [] :: choiceSymbols texts ++ [Symbol.close]) ++ []).foldlM
      State.read start = .ok (start.add (choice words)) := by
    rw [hchoice, List.append_nil]
    exact start.foldlM_read_group hcase texts
  rw [hpattern, parse, hscans.scan_eq]
  change (do (← List.foldlM State.read start _).finish) = _
  rw [hread]
  rfl

end LexTable
