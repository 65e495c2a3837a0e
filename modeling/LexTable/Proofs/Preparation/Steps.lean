import LexTable.Preparation
import LexTable.Proofs.Text.Trimming

/-!
# Steps of a preparation

What the steps at the two ends of a text do: a mark is dropped from its start, characters are cut
from both ends, and its last line is completed. One set of characters says what is cut, whatever is
to be trimmed.
-/

namespace LexTable.Preparation

theorem dropMark_eq_self {cs : List Char} (hcs : cs.head? ≠ some '\ufeff') : dropMark cs = cs := by
  unfold dropMark
  split
  · exact absurd rfl hcs
  · rfl

theorem mem_of_mem_dropMark {c : Char} {cs : List Char} (hc : c ∈ dropMark cs) : c ∈ cs := by
  unfold dropMark at hc
  split at hc
  · exact List.mem_cons_of_mem _ hc
  · exact hc

/-- The characters that are cut from the ends of a text. -/
def cuts (p : Preparation) (c : Char) : Bool :=
  if p.trimBlanks then Unicode.isWhiteSpace c else p.trimNewlines && c == '\n'

theorem trimEdges_eq_trim (p : Preparation) (cs : List Char) :
    p.trimEdges cs = Text.trim p.cuts cs := by
  obtain ⟨trimNewlines, trimBlanks, endWithNewline, tabSize⟩ := p
  cases trimBlanks with
  | true => rfl
  | false =>
    cases trimNewlines with
    | true => rfl
    | false => exact (Text.cleanEnds_of_forall_not (by simp [cuts]) cs).trim_eq_self.symm

theorem isWhiteSpace_of_cuts {p : Preparation} {c : Char} (hc : p.cuts c) :
    Unicode.isWhiteSpace c := by
  unfold cuts at hc
  split at hc
  · exact hc
  · obtain ⟨-, hnewline⟩ := Bool.and_eq_true_iff.1 hc
    obtain rfl := beq_iff_eq.1 hnewline
    rfl

/-- Where newlines are not cut nothing is. -/
theorem not_cuts_of_newline {p : Preparation} (hnewline : ¬ p.cuts '\n') (c : Char) :
    ¬ p.cuts c := by
  unfold cuts at hnewline ⊢
  split
  · next hblanks =>
    rw [if_pos hblanks] at hnewline
    exact absurd rfl hnewline
  · next hblanks =>
    rw [if_neg hblanks] at hnewline
    simp_all

theorem cuts_tab_of_space {p : Preparation} (hspace : p.cuts ' ') : p.cuts '\t' := by
  unfold cuts at hspace ⊢
  split
  · rfl
  · next hblanks =>
    rw [if_neg hblanks] at hspace
    simp at hspace

/-- The text before its last line is completed. -/
def body (p : Preparation) (source : List Char) : List Char :=
  let cs := p.trimEdges (unifyNewlines (dropMark source))
  if p.tabSize = 0 then cs else expandTabs p.tabSize cs

/-- Completes the last line if that is to be done. -/
def complete (p : Preparation) (cs : List Char) : List Char :=
  if p.endWithNewline then completeLine cs else cs

theorem toList_apply (p : Preparation) (source : String) :
    (p.apply source).toList = p.complete (p.body source.toList) :=
  String.toList_ofList

/-- At most a newline is appended, and that only to a line that lacks it. -/
theorem exists_complete_eq (p : Preparation) (cs : List Char) : ∃ ending,
    p.complete cs = cs ++ ending ∧
      (ending = [] ∨ p.endWithNewline ∧ ending = ['\n']) := by
  unfold complete completeLine
  split
  · next hend =>
    split
    · exact ⟨[], (List.append_nil cs).symm, .inl rfl⟩
    · exact ⟨['\n'], rfl, .inr ⟨hend, rfl⟩⟩
  · exact ⟨[], (List.append_nil cs).symm, .inl rfl⟩

theorem getLast?_completeLine (cs : List Char) : (completeLine cs).getLast? = some '\n' := by
  unfold completeLine
  split
  · assumption
  · exact List.getLast?_concat

end LexTable.Preparation
