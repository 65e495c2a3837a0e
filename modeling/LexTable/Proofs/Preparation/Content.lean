import LexTable.Proofs.Preparation.LineEndings
import LexTable.Proofs.Preparation.Tabs

/-!
# What preparation keeps

Preparation takes away a mark and adds and removes white space, and it keeps all visible characters
in their order. Where tabs are left alone it keeps one piece of the text with its line endings made
newlines, and cuts only what is to be trimmed before and behind it.
-/

namespace LexTable.Preparation

/-- The characters of a text besides white space. -/
def visible (cs : List Char) : List Char :=
  cs.filter (!Unicode.isWhiteSpace ·)

/-- A text without the mark at its start, if it has one. -/
def Unmarked (source cs : List Char) : Prop :=
  source = '\ufeff' :: cs ∨ source.head? ≠ some '\ufeff' ∧ cs = source

theorem unmarked_dropMark (source : List Char) : Unmarked source (dropMark source) := by
  unfold dropMark
  split
  · exact .inl rfl
  · next hmark =>
    refine .inr ⟨?_, rfl⟩
    intro hhead
    obtain ⟨rest, hrest⟩ := List.head?_eq_some_iff.1 hhead
    exact hmark rest hrest

theorem visible_unifyNewlines (cs : List Char) : visible (unifyNewlines cs) = visible cs := by
  fun_induction unifyNewlines cs with
  | case1 cs ih => exact ih
  | case2 cs hpair ih => exact ih
  | case3 c cs hpair hlone ih =>
    unfold visible at ih ⊢
    rw [List.filter_cons, List.filter_cons, ih]
  | case4 => rfl

theorem visible_append (cs ds : List Char) : visible (cs ++ ds) = visible cs ++ visible ds :=
  List.filter_append cs ds

theorem visible_of_forall {cs : List Char} (hcs : ∀ c ∈ cs, Unicode.isWhiteSpace c) :
    visible cs = [] := by
  rw [visible, List.filter_eq_nil_iff]
  simpa using hcs

theorem visible_trim {q : Char → Bool} (hq : ∀ c, q c → Unicode.isWhiteSpace c) (cs : List Char) :
    visible (Text.trim q cs) = visible cs := by
  obtain ⟨left, right, hcs, hedges⟩ := Text.exists_eq_append_trim q cs
  rw [List.forall_mem_append] at hedges
  have hleft : visible left = [] := visible_of_forall fun c hc ↦ hq c (hedges.1 c hc)
  have hright : visible right = [] := visible_of_forall fun c hc ↦ hq c (hedges.2 c hc)
  have hall := congrArg visible hcs
  rw [visible_append, visible_append, hleft, hright, List.nil_append, List.append_nil] at hall
  exact hall.symm

theorem visible_complete (p : Preparation) (cs : List Char) :
    visible (p.complete cs) = visible cs := by
  obtain ⟨ending, hcomplete, hending⟩ := exists_complete_eq p cs
  have hblank : visible ending = [] := by
    rcases hending with rfl | ⟨-, rfl⟩ <;> rfl
  rw [hcomplete, visible_append, hblank, List.append_nil]

theorem visible_body (p : Preparation) (source : List Char) :
    visible (p.body source) = visible (dropMark source) :=
  calc
    _ = visible (Text.trim p.cuts (unifyNewlines (dropMark source))) :=
      (widens_body p source).filter_eq (by decide) (by decide)
    _ = visible (unifyNewlines (dropMark source)) := visible_trim (fun _ ↦ isWhiteSpace_of_cuts) _
    _ = visible (dropMark source) := visible_unifyNewlines _

/-- Without tab stops a prepared text is a piece of the text with its line endings unified, behind
all that can be cut from its start, and possibly a newline behind it. -/
theorem exists_piece_behind {p : Preparation} (hsize : p.tabSize = 0) (source : List Char) :
    let cs := unifyNewlines (dropMark source)
    ∃ piece right ending, cs = cs.takeWhile p.cuts ++ piece ++ right ∧
      (∀ c ∈ right, p.cuts c) ∧ p.complete (p.body source) = piece ++ ending ∧
      (ending = [] ∨ p.endWithNewline ∧ ending = ['\n']) := by
  intro cs
  have hbody : p.body source = Text.trim p.cuts cs :=
    body_eq_trim fun hpos ↦ absurd hsize (Nat.ne_of_gt hpos)
  obtain ⟨ending, hcomplete, hending⟩ := exists_complete_eq p (p.body source)
  refine ⟨Text.trim p.cuts cs, (cs.dropWhile p.cuts).rtakeWhile p.cuts, ending, ?_,
    fun c ↦ List.mem_rtakeWhile_imp, ?_, hending⟩
  · rw [List.append_assoc, Text.trim_append_rtakeWhile, List.takeWhile_append_dropWhile]
  · rw [hcomplete, hbody]

theorem exists_piece {p : Preparation} (hsize : p.tabSize = 0) (source : List Char) :
    ∃ left piece right ending, unifyNewlines (dropMark source) = left ++ piece ++ right ∧
      (∀ c ∈ left ++ right, p.cuts c) ∧ p.complete (p.body source) = piece ++ ending ∧
      (ending = [] ∨ p.endWithNewline ∧ ending = ['\n']) := by
  obtain ⟨piece, right, ending, hsource, hright, hending⟩ := exists_piece_behind hsize source
  refine ⟨_, piece, right, ending, hsource, ?_, hending⟩
  rw [List.forall_mem_append]
  exact ⟨fun c ↦ List.mem_takeWhile_imp, hright⟩

/-- All visible characters of a text are kept. Without tab stops what is kept is one piece of the
text, in which pairs and then single carriage returns have become newlines, with nothing cut before
and behind it but what is to be trimmed. -/
theorem apply_keeps_visible (p : Preparation) (source : String) :
    ∃ cs, Unmarked source.toList cs ∧ visible (p.apply source).toList = visible cs ∧
      (p.tabSize = 0 → ∃ left piece right ending,
        (joinPairs cs).map newlineFor = left ++ piece ++ right ∧
        (∀ c ∈ left ++ right, p.cuts c) ∧ (p.apply source).toList = piece ++ ending ∧
        (ending = [] ∨ p.endWithNewline ∧ ending = ['\n'])) := by
  refine ⟨dropMark source.toList, unmarked_dropMark _, ?_, ?_⟩
  · rw [toList_apply, visible_complete, visible_body]
  · intro hsize
    rw [toList_apply, ← unifyNewlines_eq_map]
    exact exists_piece hsize source.toList

end LexTable.Preparation
