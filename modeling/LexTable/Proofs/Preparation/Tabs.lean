import LexTable.Proofs.Preparation.Steps

/-!
# Expanded tabs

Expanding tabs puts at least one space in the place of each tab and keeps everything else. So what a
text has besides tabs and spaces stays the same, and so does whether its ends are blank.
-/

namespace LexTable.Preparation

variable {cs ds es fs : List Char}

/-- Some tabs of a text have become spaces. -/
inductive Widens : List Char → List Char → Prop
  | nil : Widens [] []
  | keep {c : Char} {cs ds : List Char} (hrest : Widens cs ds) : Widens (c :: cs) (c :: ds)
  | tab {width : Nat} {cs ds : List Char} (hwidth : 0 < width) (hrest : Widens cs ds) :
      Widens ('\t' :: cs) (List.replicate width ' ' ++ ds)

theorem Widens.refl (cs : List Char) : Widens cs cs := by
  induction cs with
  | nil => exact .nil
  | cons c cs ih => exact .keep ih

theorem widens_expandTabsFrom {size : Nat} (hsize : 0 < size) (column : Nat) (cs : List Char) :
    Widens cs (expandTabsFrom size column cs) := by
  induction cs generalizing column with
  | nil => exact .nil
  | cons c cs ih =>
    rw [expandTabsFrom]
    split
    · next hc =>
      subst hc
      have hwidth := Nat.mod_lt column hsize
      exact .tab (by omega) (ih _)
    · split <;> exact .keep (ih _)

theorem tab_not_mem_expandTabsFrom (size column : Nat) (cs : List Char) :
    '\t' ∉ expandTabsFrom size column cs := by
  induction cs generalizing column with
  | nil => exact List.not_mem_nil
  | cons c cs ih =>
    rw [expandTabsFrom]
    split
    · simp [ih]
    · next hc => split <;> simp [ih, Ne.symm hc]

theorem expandTabsFrom_eq_self (size column : Nat) (hcs : '\t' ∉ cs) :
    expandTabsFrom size column cs = cs := by
  induction cs generalizing column with
  | nil => rfl
  | cons c cs ih =>
    rw [List.mem_cons, not_or] at hcs
    rw [expandTabsFrom, if_neg (Ne.symm hcs.1), ih _ hcs.2, ih _ hcs.2, ite_self]

namespace Widens

theorem mem_or_eq (hwidens : Widens cs ds) {c : Char} (hc : c ∈ ds) : c ∈ cs ∨ c = ' ' := by
  induction hwidens with
  | nil => cases hc
  | keep hrest ih =>
    rcases List.mem_cons.1 hc with rfl | hc
    · exact .inl List.mem_cons_self
    · exact (ih hc).imp_left (List.mem_cons_of_mem _)
  | tab hwidth hrest ih =>
    rcases List.mem_append.1 hc with hspace | hc
    · exact .inr (List.eq_of_mem_replicate hspace)
    · exact (ih hc).imp_left (List.mem_cons_of_mem _)

/-- What a text has besides tabs and spaces stays the same. -/
theorem filter_eq (hwidens : Widens cs ds) {q : Char → Bool} (htab : ¬ q '\t') (hspace : ¬ q ' ') :
    ds.filter q = cs.filter q := by
  induction hwidens with
  | nil => rfl
  | keep hrest ih => rw [List.filter_cons, List.filter_cons, ih]
  | tab hwidth hrest ih =>
    rw [List.filter_append, List.filter_replicate_of_neg hspace, List.filter_cons_of_neg htab, ih]
    rfl

theorem append (hfront : Widens cs ds) (hback : Widens es fs) : Widens (cs ++ es) (ds ++ fs) := by
  induction hfront with
  | nil => exact hback
  | keep hrest ih => exact .keep ih
  | tab hwidth hrest ih =>
    rw [List.cons_append, List.append_assoc]
    exact .tab hwidth ih

theorem reverse (hwidens : Widens cs ds) : Widens cs.reverse ds.reverse := by
  induction hwidens with
  | nil => exact .nil
  | keep hrest ih =>
    rw [List.reverse_cons, List.reverse_cons]
    exact ih.append (.refl _)
  | tab hwidth hrest ih =>
    have htab := tab hwidth .nil
    rw [List.append_nil] at htab
    rw [List.reverse_cons, List.reverse_append, List.reverse_replicate]
    exact ih.append htab

variable {p : Char → Bool}

theorem head_clean (hwidens : Widens cs ds) (hblanks : p ' ' → p '\t')
    (hcs : ∀ c ∈ cs.head?, ¬ p c) : ∀ c ∈ ds.head?, ¬ p c := by
  cases hwidens with
  | nil => exact hcs
  | keep hrest => exact hcs
  | @tab width cs ds hwidth hrest =>
    obtain ⟨more, rfl⟩ := Nat.exists_eq_add_of_lt hwidth
    rintro c ⟨⟩
    exact mt hblanks (hcs '\t' rfl)

/-- A clean end stays clean, unless a tab counts as clean and a space does not. -/
theorem cleanEnds (hwidens : Widens cs ds) (hblanks : p ' ' → p '\t')
    (hcs : Text.CleanEnds p cs) : Text.CleanEnds p ds where
  head := hwidens.head_clean hblanks hcs.head
  last := by
    rw [← List.head?_reverse]
    exact hwidens.reverse.head_clean hblanks hcs.reverse.head

end Widens

section body

variable (p : Preparation) (source : List Char)

theorem widens_body :
    Widens (Text.trim p.cuts (unifyNewlines (dropMark source))) (p.body source) := by
  rw [body, trimEdges_eq_trim]
  split
  · exact .refl _
  · next hsize => exact widens_expandTabsFrom (Nat.pos_of_ne_zero hsize) 0 _

theorem tab_not_mem_body (hsize : 0 < p.tabSize) : '\t' ∉ p.body source := by
  rw [body, if_neg (Nat.ne_of_gt hsize)]
  exact tab_not_mem_expandTabsFrom _ _ _

variable {p source}

/-- Without a tab that is to be expanded the line endings are unified and the ends trimmed. -/
theorem body_eq_trim (htabs : 0 < p.tabSize →
    '\t' ∉ Text.trim p.cuts (unifyNewlines (dropMark source))) :
    p.body source = Text.trim p.cuts (unifyNewlines (dropMark source)) := by
  rw [body, trimEdges_eq_trim]
  split
  · rfl
  · next hsize => exact expandTabsFrom_eq_self _ _ (htabs (Nat.pos_of_ne_zero hsize))

end body

end LexTable.Preparation
