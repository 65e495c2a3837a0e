import LexTable.Text.Trim
import Mathlib.Data.List.DropRight

/-!
# Trimmed texts

Trimming cuts a text at both ends until neither is a character that is to be cut. What has such ends
is what trimming leaves of any text that has only characters to be cut around it.
-/

namespace LexTable.Text

variable {p : Char → Bool} {cs left right : List Char}

/-- Neither end of the text is a character that satisfies `p`. -/
structure CleanEnds (p : Char → Bool) (cs : List Char) : Prop where
  head : ∀ c ∈ cs.head?, ¬ p c
  last : ∀ c ∈ cs.getLast?, ¬ p c

theorem CleanEnds.reverse (hcs : CleanEnds p cs) : CleanEnds p cs.reverse where
  head := by
    rw [List.head?_reverse]
    exact hcs.last
  last := by
    rw [List.getLast?_reverse]
    exact hcs.head

theorem cleanEnds_of_forall_not (hp : ∀ c, ¬ p c) (cs : List Char) : CleanEnds p cs where
  head c _ := hp c
  last c _ := hp c

theorem CleanEnds.dropWhile_eq_self (hcs : CleanEnds p cs) : cs.dropWhile p = cs := by
  cases cs with
  | nil => rfl
  | cons c cs => exact List.dropWhile_cons_of_neg (hcs.head c rfl)

/-- A text is cut out of what stands around it if all of that is to be cut. -/
theorem CleanEnds.trim_eq (hcs : CleanEnds p cs) (hleft : ∀ c ∈ left, p c)
    (hright : ∀ c ∈ right, p c) : trim p (left ++ cs ++ right) = cs := by
  have hback : ∀ c ∈ right.reverse, p c := fun c hc ↦ hright c (List.mem_reverse.1 hc)
  rw [trim, List.append_assoc, List.dropWhile_append_of_pos hleft]
  by_cases hne : cs = []
  · rw [hne, List.nil_append, List.dropWhile_eq_nil_iff.2 hright]
    rfl
  · have hfront : (cs ++ right).dropWhile p = cs ++ right := by
      obtain ⟨c, cs, rfl⟩ := List.exists_cons_of_ne_nil hne
      exact List.dropWhile_cons_of_neg (hcs.head c rfl)
    rw [hfront, List.reverse_append, List.dropWhile_append_of_pos hback,
      hcs.reverse.dropWhile_eq_self, List.reverse_reverse]

theorem CleanEnds.trim_eq_self (hcs : CleanEnds p cs) : trim p cs = cs := by
  have htrim : trim p ([] ++ cs ++ []) = cs := hcs.trim_eq (by simp) (by simp)
  rwa [List.nil_append, List.append_nil] at htrim

theorem trim_append_rtakeWhile (p : Char → Bool) (cs : List Char) :
    trim p cs ++ (cs.dropWhile p).rtakeWhile p = cs.dropWhile p :=
  List.rdropWhile_append_rtakeWhile

theorem exists_eq_append_trim (p : Char → Bool) (cs : List Char) :
    ∃ left right, cs = left ++ trim p cs ++ right ∧ ∀ c ∈ left ++ right, p c := by
  refine ⟨cs.takeWhile p, (cs.dropWhile p).rtakeWhile p, ?_, ?_⟩
  · rw [List.append_assoc, trim_append_rtakeWhile, List.takeWhile_append_dropWhile]
  · rw [List.forall_mem_append]
    exact ⟨fun c ↦ List.mem_takeWhile_imp, fun c ↦ List.mem_rtakeWhile_imp⟩

theorem mem_of_mem_trim {c : Char} (hc : c ∈ trim p cs) : c ∈ cs := by
  obtain ⟨left, right, hcs, -⟩ := exists_eq_append_trim p cs
  rw [hcs]
  exact List.mem_append_left _ (List.mem_append_right _ hc)

theorem cleanEnds_trim (p : Char → Bool) (cs : List Char) : CleanEnds p (trim p cs) where
  head c hc := by
    have hfirst := List.head?_dropWhile_not p cs
    rw [← trim_append_rtakeWhile, List.head?_append, Option.mem_def.1 hc] at hfirst
    simpa using hfirst
  last c hc := by
    obtain ⟨front, hfront⟩ := List.getLast?_eq_some_iff.1 hc
    have hlast : ¬ p ((trim p cs).getLast (by simp [hfront])) :=
      List.rdropWhile_last_not p (cs.dropWhile p) _
    simpa [hfront] using hlast

end LexTable.Text
