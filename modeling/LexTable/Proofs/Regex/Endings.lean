import LexTable.Proofs.Regex.Starts
import Mathlib.Data.List.TakeWhile

/-!
# How a match ends

A greedy run takes all that it can before it gives anything back. So the preferred way through an
expression that ends with a run never stops in front of a character that the run could have taken,
whatever came before the run.
-/

namespace LexTable

namespace Regex

/-- The preferred way, wherever it starts, does not stop in front of a character of the set. -/
def Stops (r : Regex) (s : CharSet) : Prop :=
  ∀ way, ∀ after ∈ (r.ways way).head?, ∀ c ∈ after.rest.head?, s.contains c = false

theorem not_contains_of_mem_head?_drop (s : CharSet) (cs : List Char) :
    ∀ c ∈ (cs.drop (cs.takeWhile s.contains).length).head?, s.contains c = false := by
  intro c hc
  have hdrop : cs.drop (cs.takeWhile s.contains).length = cs.dropWhile s.contains := by
    calc
      _ = (cs.takeWhile s.contains ++ cs.dropWhile s.contains).drop
          (cs.takeWhile s.contains).length := by rw [List.takeWhile_append_dropWhile]
      _ = _ := List.drop_left
  have hstop := List.head?_dropWhile_not s.contains cs
  rw [hdrop] at hc
  rw [Option.mem_def.1 hc] at hstop
  simpa using hstop

theorem stops_star_chars (s : CharSet) : (star true (chars s)).Stops s := by
  intro way after hafter
  rw [ways_star_chars, List.range_succ, List.reverse_append] at hafter
  obtain rfl := Option.mem_some.1 hafter
  exact not_contains_of_mem_head?_drop s way.rest

theorem Stops.seq {s : CharSet} {t : Regex} (ht : t.Stops s) (r : Regex) :
    (Regex.seq r t).Stops s := by
  intro way after hafter
  rw [ways, List.head?_flatMap] at hafter
  obtain ⟨middle, -, hmiddle⟩ := List.exists_of_findSome?_eq_some hafter
  exact ht middle after hmiddle

theorem stops_run (s : CharSet) : (run s).Stops s :=
  -- a run is one character of the set and then as many more as there are
  (stops_star_chars s).seq (chars s)

theorem Stops.group {s : CharSet} {r : Regex} (hr : r.Stops s) (i : Nat) :
    (Regex.group i r).Stops s := by
  intro way after hafter
  rw [ways, List.head?_map] at hafter
  obtain ⟨inner, hinner, rfl⟩ := Option.map_eq_some_iff.1 hafter
  exact hr _ inner hinner

/-- An assertion that no character of the set may come next is as good as a run. -/
theorem stops_look {l : Look} {s : CharSet}
    (hl : ∀ before c, l.holds before (some c) → s.contains c = false) : (look l).Stops s := by
  intro way after hafter c hc
  rw [ways] at hafter
  split at hafter
  · next hholds =>
    obtain rfl := Option.mem_some.1 hafter
    rw [Option.mem_def.1 hc] at hholds
    exact hl _ c hholds
  · cases hafter

/-- What a match leaves of the text is where the preferred way has come to. -/
theorem exists_way_of_match? {r : Regex} (hsteady : r.isSteady) {before : Option Char}
    {text : List Char} {m : Match} (hmatch : r.match? before text = some m) :
    ∃ way after, way.rest = text ∧ after ∈ (r.ways way).head? ∧
      after.rest = text.drop m.length := by
  rw [match?_eq hsteady, Option.map_eq_some_iff] at hmatch
  obtain ⟨after, hhead, rfl⟩ := hmatch
  refine ⟨_, after, rfl, hhead, ?_⟩
  obtain ⟨piece, hpasses, -⟩ := exists_passes (List.mem_of_mem_head? hhead)
  have htext : text = piece ++ after.rest := hpasses.rest_eq
  have hoffset : after.offset = piece.length := by rw [hpasses.offset_eq, Nat.zero_add]
  rw [htext, hoffset, List.drop_left]

theorem Stops.match? {r : Regex} {s : CharSet} (hr : r.Stops s) (hsteady : r.isSteady)
    {before : Option Char} {text : List Char} {m : Match}
    (hmatch : r.match? before text = some m) :
    ∀ c ∈ (text.drop m.length).head?, s.contains c = false := by
  obtain ⟨way, after, -, hafter, hrest⟩ := exists_way_of_match? hsteady hmatch
  rw [← hrest]
  exact hr way after hafter

end Regex

end LexTable
