import LexTable.Proofs.Regex.Matching
import LexTable.Proofs.Regex.Runs

/-!
# How a match starts

With which characters an expression can begin is read off the expression. A match that is not empty
begins with one of them, and an expression that consumes text has a match as soon as there is a
way through it.
-/

namespace LexTable

namespace Regex

/-- Some way through the expression may take this character first. -/
def begins : Regex → Char → Bool
  | empty, _ => false
  | chars s, c => s.contains c
  | look _, _ => false
  | seq r s, c => r.begins c || !r.consumes && s.begins c
  | alt r s, c => r.begins c || s.begins c
  | group _ r, c => r.begins c
  | opt _ r, c => r.begins c
  | star _ r, c => r.begins c
  | plus _ r, c => r.begins c

theorem begins_of_begins_seq {r s : Regex} (hconsumes : r.consumes) {c : Char}
    (hc : (seq r s).begins c) : r.begins c := by
  simpa [begins, hconsumes] using hc

theorem begins_text (cs : List Char) (c : Char) : (text cs).begins c ↔ cs.head? = some c := by
  have hcons (d : Char) (ds : List Char) : (text (d :: ds)).begins c = (c == d) := by
    cases ds with
    | nil => rfl
    | cons e es => simp [text, characters, seqAll, begins, consumes, CharSet.contains]
  cases cs with
  | nil => simp [text, characters, seqAll, begins]
  | cons d ds => rw [hcons, beq_iff_eq, List.head?_cons, Option.some.injEq, eq_comm]

theorem begins_altAll (rs : List Regex) (c : Char) :
    (altAll rs).begins c ↔ ∃ r ∈ rs, r.begins c := by
  induction rs with
  | nil => simp [altAll, begins]
  | cons r rs ih =>
    cases rs with
    | nil => simp [altAll]
    | cons s rs => simpa [altAll, begins] using or_congr_right ih

/-- A way either goes on or stays where it is. -/
theorem offset_lt_or_rest_eq {r : Regex} {way after : Way} (hafter : after ∈ r.ways way) :
    way.offset < after.offset ∨
      after.offset = way.offset ∧ after.rest = way.rest ∧ r.consumes = false := by
  obtain ⟨piece, hpasses, hne⟩ := exists_passes hafter
  cases piece with
  | nil =>
    refine .inr ⟨hpasses.offset_eq, hpasses.rest_eq.symm, ?_⟩
    rw [← Bool.not_eq_true]
    intro hconsumes
    exact hne hconsumes rfl
  | cons c piece =>
    left
    rw [hpasses.offset_eq, List.length_cons]
    omega

/-- A round that stays where it is does not count. -/
theorem begins_of_mem_rounds {r : Regex} {greedy : Bool}
    (hround : ∀ way, ∀ after ∈ r.ways way, way.offset < after.offset →
      ∃ c ∈ way.rest.head?, r.begins c) {limit : Nat} {way after : Way}
    (hafter : after ∈ rounds greedy r.ways limit way) (hlt : way.offset < after.offset) :
    ∃ c ∈ way.rest.head?, r.begins c := by
  induction limit generalizing way with
  | zero =>
    obtain rfl := List.mem_singleton.1 hafter
    exact absurd hlt (Nat.lt_irrefl _)
  | succ limit ih =>
    rcases mem_prefer.1 hafter with hmore | rfl
    · obtain ⟨middle, hmiddle, hmem⟩ := List.mem_flatMap.1 hmore
      rcases offset_lt_or_rest_eq hmiddle with hmoved | ⟨hoffset, hrest, -⟩
      · exact hround way middle hmiddle hmoved
      · rw [← hrest]
        exact ih hmem (hoffset ▸ hlt)
    · exact absurd hlt (Nat.lt_irrefl _)

theorem begins_of_mem_ways {r : Regex} {way after : Way} (hafter : after ∈ r.ways way)
    (hlt : way.offset < after.offset) : ∃ c ∈ way.rest.head?, r.begins c := by
  induction r generalizing way after with
  | empty =>
    obtain rfl := List.mem_singleton.1 hafter
    exact absurd hlt (Nat.lt_irrefl _)
  | chars s =>
    obtain ⟨c, hc, hpasses, -⟩ := Way.passes_of_mem_take hafter
    exact ⟨c, by simp [hpasses.rest_eq], hc⟩
  | look l =>
    rw [ways] at hafter
    split at hafter
    · obtain rfl := List.mem_singleton.1 hafter
      exact absurd hlt (Nat.lt_irrefl _)
    · cases hafter
  | seq r s ihr ihs =>
    obtain ⟨middle, hmiddle, hmem⟩ := List.mem_flatMap.1 hafter
    rcases offset_lt_or_rest_eq hmiddle with hmoved | ⟨hoffset, hrest, hconsumes⟩
    · obtain ⟨c, hc, hbegins⟩ := ihr hmiddle hmoved
      exact ⟨c, hc, by simp [begins, hbegins]⟩
    · obtain ⟨c, hc, hbegins⟩ := ihs hmem (hoffset ▸ hlt)
      exact ⟨c, hrest ▸ hc, by simp [begins, hconsumes, hbegins]⟩
  | alt r s ihr ihs =>
    rcases List.mem_append.1 hafter with hr | hs
    · obtain ⟨c, hc, hbegins⟩ := ihr hr hlt
      exact ⟨c, hc, by simp [begins, hbegins]⟩
    · obtain ⟨c, hc, hbegins⟩ := ihs hs hlt
      exact ⟨c, hc, by simp [begins, hbegins]⟩
  | group i r ih =>
    obtain ⟨inner, hinner, rfl⟩ := List.mem_map.1 hafter
    obtain ⟨c, hc, hbegins⟩ := ih hinner hlt
    exact ⟨c, hc, hbegins⟩
  | opt greedy r ih =>
    rcases mem_prefer.1 hafter with hr | rfl
    · exact ih hr hlt
    · exact absurd hlt (Nat.lt_irrefl _)
  | star greedy r ih =>
    exact begins_of_mem_rounds (fun _ _ hafter hlt ↦ ih hafter hlt) hafter hlt
  | plus greedy r ih =>
    obtain ⟨middle, hmiddle, hmem⟩ := List.mem_flatMap.1 hafter
    rcases offset_lt_or_rest_eq hmiddle with hmoved | ⟨hoffset, hrest, -⟩
    · exact ih hmiddle hmoved
    · rw [← hrest]
      exact begins_of_mem_rounds (fun _ _ hafter hlt ↦ ih hafter hlt) hmem (hoffset ▸ hlt)

theorem mem_ways_star (greedy : Bool) (r : Regex) (way : Way) : way ∈ (star greedy r).ways way := by
  rw [ways]
  cases way.rest.length with
  | zero => exact List.mem_singleton_self way
  | succ limit => exact mem_prefer.2 (.inr rfl)

theorem ways_seq_chars {s : CharSet} {way : Way} {c : Char} {after : List Char}
    (hrest : way.rest = c :: after) (hc : s.contains c) (r : Regex) :
    (seq (chars s) r).ways way = r.ways (way.skip 1) := by
  rw [ways, ways, Way.take_eq, hrest]
  simp [hc]

theorem begins_of_match? {r : Regex} (hsteady : r.isSteady) {before : Option Char}
    {text : List Char} {m : Match} (hmatch : r.match? before text = some m)
    (hlength : m.length ≠ 0) :
    ∃ c ∈ text.head?, r.begins c := by
  rw [match?_eq hsteady, Option.map_eq_some_iff] at hmatch
  obtain ⟨after, hhead, rfl⟩ := hmatch
  exact begins_of_mem_ways (List.mem_of_mem_head? hhead) (Nat.pos_of_ne_zero hlength)

theorem exists_match?_of_mem_ways {r : Regex} (hsteady : r.isSteady) (hconsumes : r.consumes)
    {before : Option Char} {text : List Char} {after : Way}
    (hafter : after ∈ r.ways ⟨before, text, 0, List.replicate (2 * r.lastGroup) none⟩) :
    ∃ m, r.match? before text = some m ∧ m.length ≠ 0 := by
  obtain ⟨first, later, hways⟩ := List.exists_cons_of_ne_nil (List.ne_nil_of_mem hafter)
  refine ⟨⟨first.offset, first.slots⟩, by rw [match?_eq hsteady, hways]; rfl, ?_⟩
  have hfirst := offset_lt_or_rest_eq (hways ▸ List.mem_cons_self ..)
  rcases hfirst with hmoved | ⟨-, -, hnot⟩
  · exact Nat.ne_of_gt hmoved
  · rw [hconsumes] at hnot
    cases hnot

end Regex

end LexTable
