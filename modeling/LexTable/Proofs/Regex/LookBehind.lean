import LexTable.Regex.Matcher
import Mathlib.Data.List.Basic

/-!
# What a match depends on before its start

Of the text before its start a match sees one character, and it sees that through the assertions of
its expression only. Where these hold alike after two characters, the matches are the same.
-/

namespace LexTable

/-- The assertion holds alike whichever of the two stands before the place. -/
def Look.Alike (l : Look) (before other : Option Char) : Prop :=
  ∀ after, l.holds before after = l.holds other after

/-- The assertions of the expression. -/
def Regex.looks : Regex → List Look
  | empty => []
  | chars _ => []
  | look l => [l]
  | seq r s => r.looks ++ s.looks
  | alt r s => r.looks ++ s.looks
  | group _ r => r.looks
  | opt _ r => r.looks
  | star _ r => r.looks
  | plus _ r => r.looks

theorem Regex.looks_seqAll (rs : List Regex) : (seqAll rs).looks = rs.flatMap looks := by
  fun_induction seqAll rs <;> simp_all [looks]

theorem Regex.looks_altAll (rs : List Regex) : (altAll rs).looks = rs.flatMap looks := by
  fun_induction altAll rs <;> simp_all [looks]

namespace Matcher

variable {before other : Option Char}

theorem explore_congr {r : Regex} (hlooks : ∀ l ∈ r.looks, l.Alike before other)
    (after : Option Char) (offset : Nat) (rest : Rest) (next : Move) :
    explore ⟨before, after, offset⟩ r rest next = explore ⟨other, after, offset⟩ r rest next := by
  induction r generalizing rest next with
  | empty => rfl
  | chars s => rfl
  | look l =>
    funext slots search
    have hholds : l.holds before after = l.holds other after :=
      hlooks l (by simp [Regex.looks]) after
    rw [explore, explore, hholds]
  | seq r s ihr ihs | alt r s ihr ihs =>
    rw [Regex.looks, List.forall_mem_append] at hlooks
    simp only [explore, ihr hlooks.1, ihs hlooks.2]
  | group i r ih | opt greedy r ih | star greedy r ih | plus greedy r ih =>
    simp only [explore, ih hlooks]

/-- What a stack has still to match has assertions that hold alike. -/
def Rest.Alike (before other : Option Char) (rest : Rest) : Prop :=
  ∀ r, Frame.run r ∈ rest → ∀ l ∈ r.looks, l.Alike before other

theorem enter_congr {rest : Rest} (hrest : rest.Alike before other) (after : Option Char)
    (offset : Nat) :
    enter ⟨before, after, offset⟩ rest = enter ⟨other, after, offset⟩ rest := by
  induction rest with
  | nil => rfl
  | cons frame rest ih =>
    have hbelow := ih fun r hr ↦ hrest r (List.mem_cons_of_mem frame hr)
    cases frame with
    | run r => rw [enter, enter, hbelow, explore_congr (hrest r List.mem_cons_self)]
    | close i => rw [enter, enter, hbelow]

theorem visit_congr {threads : List Thread}
    (hthreads : ∀ thread ∈ threads, thread.rest.Alike before other) (after : Option Char)
    (offset : Nat) :
    visit ⟨before, after, offset⟩ threads = visit ⟨other, after, offset⟩ threads := by
  have henter : ∀ search : Search, ∀ thread ∈ threads,
      enter ⟨before, after, offset⟩ thread.rest thread.slots search =
        enter ⟨other, after, offset⟩ thread.rest thread.slots search := by
    intro search thread hthread
    rw [enter_congr (hthreads thread hthread)]
  exact List.foldl_ext _ _ _ henter

theorem run_congr {threads : List Thread}
    (hthreads : ∀ thread ∈ threads, thread.rest.Alike before other) (offset : Nat)
    (best : Option (Nat × Slots)) (text : List Char) :
    run before offset threads best text = run other offset threads best text := by
  cases text with
  | nil => rw [run, run, visit_congr hthreads]
  | cons c cs => rw [run, run, visit_congr hthreads]

end Matcher

theorem Regex.match?_congr {r : Regex} {before other : Option Char}
    (hlooks : ∀ l ∈ r.looks, l.Alike before other) (text : List Char) :
    r.match? before text = r.match? other text := by
  have hthread : Matcher.Rest.Alike before other [.run r] := by
    simpa [Matcher.Rest.Alike] using hlooks
  rw [match?, match?, Matcher.run_congr (List.forall_mem_singleton.2 hthread)]

end LexTable
