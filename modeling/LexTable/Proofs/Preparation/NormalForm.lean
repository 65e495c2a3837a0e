import LexTable.Proofs.Preparation.LineEndings
import LexTable.Proofs.Preparation.Tabs

/-!
# Prepared texts

A prepared text is in a normal form: no step of its preparation finds anything more to do in it. So
preparing it again does not change it, unless it begins with a mark that was the second one.
-/

namespace LexTable.Preparation

variable {p : Preparation}

/-- What is appended to a text that is trimmed of newlines. -/
def ending (p : Preparation) : List Char :=
  if p.endWithNewline then ['\n'] else []

/-- A text without the newline that was appended to it. -/
def core (p : Preparation) (text : List Char) : List Char :=
  if p.endWithNewline then text.dropLast else text

/-- What is required of a prepared text. Its ends are clean, but for the newline that was
appended. -/
structure Normal (p : Preparation) (text : List Char) : Prop where
  no_return : '\r' ∉ text
  no_tab : 0 < p.tabSize → '\t' ∉ text
  ends_with_newline : p.endWithNewline → text.getLast? = some '\n'
  cleanEnds : Text.CleanEnds p.cuts (p.core text)

theorem cleanEnds_body (p : Preparation) (source : List Char) :
    Text.CleanEnds p.cuts (p.body source) :=
  (widens_body p source).cleanEnds cuts_tab_of_space (Text.cleanEnds_trim _ _)

theorem return_not_mem_body (p : Preparation) (source : List Char) : '\r' ∉ p.body source := by
  intro hmem
  rcases (widens_body p source).mem_or_eq hmem with htrimmed | hspace
  · exact return_not_mem_unifyNewlines _ (Text.mem_of_mem_trim htrimmed)
  · exact absurd hspace (by decide)

section complete

variable {cs : List Char}

theorem not_mem_complete {c : Char} (hnewline : c ≠ '\n') (hcs : c ∉ cs) : c ∉ p.complete cs := by
  obtain ⟨ending, hcomplete, hending⟩ := exists_complete_eq p cs
  rw [hcomplete, List.mem_append, not_or]
  refine ⟨hcs, ?_⟩
  rcases hending with rfl | ⟨-, rfl⟩
  · exact List.not_mem_nil
  · exact mt List.mem_singleton.1 hnewline

theorem core_append_ending (p : Preparation) (cs : List Char) : p.core (cs ++ p.ending) = cs := by
  unfold core ending
  split
  · exact List.dropLast_concat
  · exact List.append_nil cs

/-- A text that is trimmed of newlines has none at its end yet. -/
theorem complete_eq_append (hcs : Text.CleanEnds p.cuts cs) (hnewline : p.cuts '\n') :
    p.complete cs = cs ++ p.ending := by
  have hlast : cs.getLast? ≠ some '\n' := fun hlast ↦ hcs.last '\n' hlast hnewline
  rw [complete, completeLine, if_neg hlast, ending]
  split
  · rfl
  · exact (List.append_nil cs).symm

end complete

theorem normal_complete_body (p : Preparation) (source : List Char) :
    p.Normal (p.complete (p.body source)) where
  no_return := not_mem_complete (by decide) (return_not_mem_body p source)
  no_tab hsize := not_mem_complete (by decide) (tab_not_mem_body p source hsize)
  ends_with_newline hend := by
    rw [complete, if_pos hend]
    exact getLast?_completeLine _
  cleanEnds := by
    have hbody := cleanEnds_body p source
    by_cases hnewline : p.cuts '\n'
    · rw [complete_eq_append hbody hnewline, core_append_ending]
      exact hbody
    · exact Text.cleanEnds_of_forall_not (not_cuts_of_newline hnewline) _

namespace Normal

variable {text : List Char}

theorem core_append_eq (htext : p.Normal text) : p.core text ++ p.ending = text := by
  unfold core ending
  split
  · next hend => exact List.dropLast_append_getLast? '\n' (htext.ends_with_newline hend)
  · exact List.append_nil text

theorem trim_eq_core (htext : p.Normal text) (hnewline : p.cuts '\n') :
    Text.trim p.cuts text = p.core text := by
  have hending : ∀ c ∈ p.ending, p.cuts c := by
    unfold ending
    split
    · exact List.forall_mem_singleton.2 hnewline
    · exact List.forall_mem_nil _
  have htrim : Text.trim p.cuts ([] ++ p.core text ++ p.ending) = p.core text :=
    htext.cleanEnds.trim_eq (List.forall_mem_nil _) hending
  rwa [List.nil_append, htext.core_append_eq] at htrim

/-- Without a mark only the ends of a text in normal form are looked at. -/
theorem body_eq_trim (htext : p.Normal text) (hmark : text.head? ≠ some '\ufeff') :
    p.body text = Text.trim p.cuts text := by
  have hunified : unifyNewlines (dropMark text) = text := by
    rw [dropMark_eq_self hmark, unifyNewlines_eq_self htext.no_return]
  rw [Preparation.body_eq_trim, hunified]
  rw [hunified]
  exact fun hsize hmem ↦ htext.no_tab hsize (Text.mem_of_mem_trim hmem)

/-- A text in normal form that begins with no mark is what it is prepared to. -/
theorem complete_body_eq (htext : p.Normal text) (hmark : text.head? ≠ some '\ufeff') :
    p.complete (p.body text) = text := by
  by_cases hnewline : p.cuts '\n'
  · calc
      _ = p.complete (p.core text) := by
        rw [htext.body_eq_trim hmark, htext.trim_eq_core hnewline]
      _ = p.core text ++ p.ending := complete_eq_append htext.cleanEnds hnewline
      _ = text := htext.core_append_eq
  · have hclean := Text.cleanEnds_of_forall_not (not_cuts_of_newline hnewline) text
    calc
      _ = p.complete text := by rw [htext.body_eq_trim hmark, hclean.trim_eq_self]
      _ = text := by
        rw [complete, completeLine]
        split
        · next hend => exact if_pos (htext.ends_with_newline hend)
        · rfl

end Normal

/-- A prepared text is in normal form, and if it begins with no mark, preparing it once more does
not change it. -/
theorem apply_normalizes (p : Preparation) (source : String) :
    p.Normal (p.apply source).toList ∧
      ((p.apply source).toList.head? ≠ some '\ufeff' → p.apply (p.apply source) = p.apply source) := by
  have hnormal : p.Normal (p.apply source).toList := by
    rw [toList_apply]
    exact normal_complete_body p source.toList
  refine ⟨hnormal, fun hmark ↦ ?_⟩
  apply String.toList_injective
  rw [toList_apply, hnormal.complete_body_eq hmark]

/-- A tab that is left inside the text becomes spaces, the one at its start is cut. -/
theorem apply_normalizes_tabs :
    let p : Preparation := { trimBlanks := true, tabSize := 4 }
    let text := p.apply "\ufeff \tx\r\n\ty\u2003\n"
    text.toList = "x\n    y\n".toList ∧ p.Normal text.toList ∧ p.apply text = text := by
  intro p text
  have htext : text.toList = "x\n    y\n".toList := by decide +kernel
  have hmark : text.toList.head? ≠ some '\ufeff' := by
    rw [htext]
    decide
  have hboth := apply_normalizes p "\ufeff \tx\r\n\ty\u2003\n"
  exact ⟨htext, hboth.1, hboth.2 hmark⟩

end LexTable.Preparation
