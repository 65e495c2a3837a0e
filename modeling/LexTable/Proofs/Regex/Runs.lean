import LexTable.Proofs.Regex.Ways
import Mathlib.Data.List.TakeWhile

/-!
# Ways past texts and runs

Expressions without a choice have at most one way: past a text, or none. A repeated set of
characters goes past a run of its members, the longest first.
-/

namespace LexTable

theorem CharSet.contains_of_mem_take {s : CharSet} {text : List Char} {count : Nat}
    (hcount : count ≤ (text.takeWhile s.contains).length) {c : Char} (hc : c ∈ text.take count) :
    s.contains c := by
  have hinside : text.take count <+: text.takeWhile s.contains := by
    apply List.prefix_of_prefix_length_le (List.take_prefix _ _) (List.takeWhile_prefix _)
    exact Nat.le_trans (List.length_take_le ..) hcount
  exact List.mem_takeWhile_imp (hinside.subset hc)

namespace Way

/-- Goes on past the next `count` characters. -/
def skip (way : Way) (count : Nat) : Way :=
  ⟨(way.rest.take count).getLast?.or way.before, way.rest.drop count, way.offset + count, way.slots⟩

@[simp] theorem skip_rest (way : Way) (count : Nat) : (way.skip count).rest = way.rest.drop count :=
  rfl

@[simp] theorem skip_zero (way : Way) : way.skip 0 = way := by
  simp [skip]

theorem skip_skip (way : Way) (count more : Nat) :
    (way.skip count).skip more = way.skip (count + more) := by
  have hbefore : ((way.rest.drop count).take more).getLast?.or
      ((way.rest.take count).getLast?.or way.before) =
      (way.rest.take (count + more)).getLast?.or way.before := by
    rw [List.take_add, List.getLast?_append, Option.or_assoc]
  simp only [skip, hbefore, List.drop_drop, Nat.add_assoc]

theorem take_eq (way : Way) (s : CharSet) :
    way.take s = if way.rest.head?.any s.contains then [way.skip 1] else [] := by
  cases hrest : way.rest with
  | nil => simp [take, hrest]
  | cons c cs => simp [take, skip, hrest]

/-- A way takes a character of the set. -/
theorem exists_mem_take (way : Way) (s : CharSet) (p : List Char → Prop) :
    (∃ after ∈ way.take s, p after.rest) ↔ ∃ c cs, way.rest = c :: cs ∧ s.contains c ∧ p cs := by
  rw [take]
  cases way.rest with
  | nil => simp
  | cons c cs =>
    by_cases hc : s.contains c
    · simp [hc]
    · simp [hc]

end Way

namespace Regex

/-- The expressions for the characters of a text. -/
def characters (cs : List Char) : List Regex :=
  cs.map fun c ↦ chars (.single c)

/-- The expression for the given text and nothing else. -/
def text (cs : List Char) : Regex :=
  seqAll (characters cs)

/-- The given text, with word boundaries around it. -/
def lone (cs : List Char) : Regex :=
  seqAll (look .wordBoundary :: characters cs ++ [look .wordBoundary])

/-- As many characters of the set as there are, but not none. -/
def run (s : CharSet) : Regex :=
  plus true (chars s)

/-- There are no groups in the expression, and every repetition in it consumes text. -/
structure Plain (r : Regex) : Prop where
  steady : r.isSteady
  lastGroup_eq : r.lastGroup = 0

theorem plain_seqAll {rs : List Regex} (hrs : ∀ r ∈ rs, r.Plain) : (seqAll rs).Plain := by
  induction rs with
  | nil => exact ⟨rfl, rfl⟩
  | cons r rs ih =>
    obtain ⟨hr, hrs⟩ := List.forall_mem_cons.1 hrs
    have hrest := ih hrs
    cases rs with
    | nil => exact hr
    | cons s rs =>
      exact ⟨by simp [seqAll, isSteady, hr.steady, hrest.steady],
        by simp [seqAll, lastGroup, hr.lastGroup_eq, hrest.lastGroup_eq]⟩

theorem plain_altAll {rs : List Regex} (hrs : ∀ r ∈ rs, r.Plain) : (altAll rs).Plain := by
  induction rs with
  | nil => exact ⟨rfl, rfl⟩
  | cons r rs ih =>
    obtain ⟨hr, hrs⟩ := List.forall_mem_cons.1 hrs
    have hrest := ih hrs
    cases rs with
    | nil => exact hr
    | cons s rs =>
      exact ⟨by simp [altAll, isSteady, hr.steady, hrest.steady],
        by simp [altAll, lastGroup, hr.lastGroup_eq, hrest.lastGroup_eq]⟩

theorem plain_text (cs : List Char) : (text cs).Plain := by
  apply plain_seqAll
  intro r hr
  obtain ⟨c, -, rfl⟩ := List.mem_map.1 hr
  exact ⟨rfl, rfl⟩

theorem ways_seqAll_cons (r : Regex) (rs : List Regex) (way : Way) :
    (seqAll (r :: rs)).ways way = (r.ways way).flatMap (seqAll rs).ways := by
  cases rs with
  | nil => simp [seqAll, ways]
  | cons s rs => rfl

theorem ways_seqAll_append (rs ss : List Regex) (way : Way) :
    (seqAll (rs ++ ss)).ways way = ((seqAll rs).ways way).flatMap (seqAll ss).ways := by
  induction rs generalizing way with
  | nil => simp [seqAll, ways]
  | cons r rs ih =>
    rw [List.cons_append, ways_seqAll_cons, ways_seqAll_cons, List.flatMap_assoc]
    exact List.flatMap_congr fun way _ ↦ ih way

theorem ways_text (cs : List Char) (way : Way) :
    (text cs).ways way = if cs <+: way.rest then [way.skip cs.length] else [] := by
  induction cs generalizing way with
  | nil => simp [text, characters, seqAll, ways]
  | cons c cs ih =>
    have hcons : (text (c :: cs)).ways way = (way.take (.single c)).flatMap (text cs).ways :=
      ways_seqAll_cons _ _ way
    rw [hcons, Way.take_eq]
    cases hrest : way.rest with
    | nil => simp
    | cons d ds =>
      by_cases hd : c = d
      · simp [CharSet.contains, hd, ih, hrest, Way.skip_skip, List.cons_prefix_cons, Nat.add_comm]
      · simp [CharSet.contains, hd, Ne.symm hd, List.cons_prefix_cons]

theorem ways_lone (cs : List Char) (way : Way) :
    (lone cs).ways way =
      if Look.wordBoundary.holds way.before way.rest.head? ∧ cs <+: way.rest ∧
        Look.wordBoundary.holds (way.skip cs.length).before (way.skip cs.length).rest.head?
      then [way.skip cs.length] else [] := by
  have hlook (way : Way) : (seqAll [look .wordBoundary]).ways way =
      if Look.wordBoundary.holds way.before way.rest.head? then [way] else [] := rfl
  have hfirst : (seqAll (look .wordBoundary :: characters cs)).ways way =
      if Look.wordBoundary.holds way.before way.rest.head? then (text cs).ways way else [] := by
    rw [ways_seqAll_cons, ways]
    split <;> simp [text]
  rw [lone, ways_seqAll_append, hfirst, ways_text]
  by_cases hbefore : Look.wordBoundary.holds way.before way.rest.head?
  · by_cases hcs : cs <+: way.rest <;> simp [hbefore, hcs, hlook]
  · simp [hbefore]

/-- As long a run as there is, then shorter ones. -/
theorem ways_star_chars (s : CharSet) (way : Way) :
    (star true (chars s)).ways way =
      (List.range ((way.rest.takeWhile s.contains).length + 1)).reverse.map way.skip := by
  induction hrest : way.rest generalizing way with
  | nil =>
    rw [ways_star (r := chars s) rfl way, ways, Way.take_eq, hrest]
    simp [prefer]
  | cons c cs ih =>
    rw [ways_star (r := chars s) rfl way, ways, Way.take_eq, hrest]
    by_cases hc : s.contains c
    · have hskip : (way.skip 1).rest = cs := by simp [hrest]
      rw [List.takeWhile_cons_of_pos hc, List.length_cons, List.range_succ_eq_map]
      simp [hc, prefer, ih (way.skip 1) hskip, Way.skip_skip, Function.comp_def, Nat.add_comm,
        List.map_reverse]
    · simp [hc, prefer]

/-- A repeated set goes past any characters of the set, also past none. -/
theorem exists_mem_ways_star (s : CharSet) (way : Way) (p : List Char → Prop) :
    (∃ after ∈ (star true (chars s)).ways way, p after.rest) ↔
      ∃ cs ds, way.rest = cs ++ ds ∧ (∀ c ∈ cs, s.contains c) ∧ p ds := by
  rw [ways_star_chars]
  constructor
  · rintro ⟨after, hafter, hp⟩
    obtain ⟨count, hcount, rfl⟩ := List.mem_map.1 hafter
    rw [List.mem_reverse, List.mem_range, Nat.lt_succ_iff] at hcount
    exact ⟨_, _, (List.take_append_drop count way.rest).symm,
      fun c hc ↦ CharSet.contains_of_mem_take hcount hc, hp⟩
  · rintro ⟨cs, ds, hrest, hcs, hp⟩
    refine ⟨way.skip cs.length, List.mem_map_of_mem ?_, ?_⟩
    · rw [List.mem_reverse, List.mem_range, Nat.lt_succ_iff, hrest,
        List.takeWhile_append_of_pos hcs, List.length_append]
      exact Nat.le_add_right _ _
    · rwa [Way.skip_rest, hrest, List.drop_left]

theorem ways_run (s : CharSet) (way : Way) :
    (run s).ways way =
      (List.range (way.rest.takeWhile s.contains).length).reverse.map fun count ↦
        way.skip (count + 1) := by
  rw [run, ways_plus, ways, Way.take_eq]
  cases hrest : way.rest with
  | nil => simp
  | cons c cs =>
    by_cases hc : s.contains c
    · have hskip : (way.skip 1).skip = fun count ↦ way.skip (count + 1) := by
        funext count
        rw [Way.skip_skip, Nat.add_comm]
      simp [hc, ways_star_chars, hrest, hskip]
    · simp [hc]

/-- A run that is a group is marked at both ends. -/
theorem mem_ways_group_run {i : Nat} {s : CharSet} {way after : Way} :
    after ∈ (group i (run s)).ways way ↔ ∃ count < (way.rest.takeWhile s.contains).length,
      after = ((way.mark (2 * i - 2)).skip (count + 1)).mark (2 * i - 1) := by
  simp [ways, ways_run, eq_comm]

end Regex

end LexTable
