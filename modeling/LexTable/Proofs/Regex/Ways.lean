import LexTable.Regex.Matcher
import Mathlib.Data.List.Basic

/-!
# The ways through an expression

What an expression means, without a search: the list of all ways to go through it from a place in a
text, the preferred one first. A way takes a piece off the text, and it leads as far whatever the
slots hold. A repetition whose body consumes text goes on from where each round of it has ended.
-/

namespace LexTable

/-- Where a way has come to: the character before, what remains of the text, how far it is from the
start, and what is in the slots. -/
structure Way where
  before : Option Char
  rest : List Char
  offset : Nat
  slots : Slots

namespace Way

/-- Takes the next character, if the set holds it. -/
def take (way : Way) (s : CharSet) : List Way :=
  match way.rest with
  | [] => []
  | c :: cs => if s.contains c then [⟨some c, cs, way.offset + 1, way.slots⟩] else []

/-- Writes the place into a slot. -/
def mark (way : Way) (slot : Nat) : Way :=
  { way with slots := way.slots.set slot (some way.offset) }

def unmarked (way : Way) : Way :=
  { way with slots := [] }

@[simp] theorem unmarked_mark (way : Way) (slot : Nat) : (way.mark slot).unmarked = way.unmarked :=
  rfl

@[simp] theorem mark_unmarked (way : Way) (slot : Nat) : way.unmarked.mark slot = way.unmarked :=
  rfl

@[simp] theorem unmarked_unmarked (way : Way) : way.unmarked.unmarked = way.unmarked := rfl

@[simp] theorem mark_rest (way : Way) (slot : Nat) : (way.mark slot).rest = way.rest := rfl

@[simp] theorem unmarked_rest (way : Way) : way.unmarked.rest = way.rest := rfl

/-- The way went on past `piece`. -/
structure Passes (way : Way) (piece : List Char) (after : Way) : Prop where
  rest_eq : way.rest = piece ++ after.rest
  offset_eq : after.offset = way.offset + piece.length
  before_eq : after.before = piece.getLast?.or way.before

namespace Passes

variable {way middle after : Way} {piece more : List Char}

theorem refl (way : Way) : way.Passes [] way where
  rest_eq := rfl
  offset_eq := rfl
  before_eq := rfl

theorem trans (hpiece : way.Passes piece middle) (hmore : middle.Passes more after) :
    way.Passes (piece ++ more) after where
  rest_eq := by rw [hpiece.rest_eq, hmore.rest_eq, List.append_assoc]
  offset_eq := by rw [hmore.offset_eq, hpiece.offset_eq, List.length_append, Nat.add_assoc]
  before_eq := by
    rw [hmore.before_eq, hpiece.before_eq, List.getLast?_append, Option.or_assoc]

theorem length_lt (hpiece : way.Passes piece after) (hne : piece ≠ []) :
    after.rest.length < way.rest.length := by
  have hpos := List.length_pos_iff.2 hne
  rw [hpiece.rest_eq, List.length_append]
  omega

end Passes

theorem passes_of_mem_take {way after : Way} {s : CharSet} (hafter : after ∈ way.take s) :
    ∃ c, s.contains c ∧ way.Passes [c] after ∧ after.slots = way.slots := by
  unfold take at hafter
  split at hafter
  · cases hafter
  · next c cs hrest =>
    split at hafter
    · next hc =>
      rw [List.mem_singleton.1 hafter]
      exact ⟨c, hc, ⟨hrest, rfl, rfl⟩, rfl⟩
    · cases hafter

end Way

/-- Leads as far whatever the slots hold. -/
def Blind (f : Way → List Way) : Prop :=
  ∀ way, (f way).map Way.unmarked = (f way.unmarked).map Way.unmarked

namespace Blind

variable {f g : Way → List Way}

theorem map_flatMap (hf : Blind f) {ways others : List Way}
    (hways : ways.map Way.unmarked = others.map Way.unmarked) :
    (ways.flatMap f).map Way.unmarked = (others.flatMap f).map Way.unmarked := by
  have hmap (ways : List Way) : (ways.flatMap f).map Way.unmarked =
      (ways.map Way.unmarked).flatMap fun way ↦ (f way).map Way.unmarked := by
    rw [List.map_flatMap, List.flatMap_map]
    exact List.flatMap_congr fun way _ ↦ hf way
  rw [hmap, hmap, hways]

theorem flatMap (hf : Blind f) (hg : Blind g) : Blind fun way ↦ (f way).flatMap g := by
  intro way
  exact hg.map_flatMap (hf way)

theorem eq_nil_iff (hf : Blind f) {way other : Way} (hsame : way.unmarked = other.unmarked) :
    f way = [] ↔ f other = [] := by
  rw [← List.map_eq_nil_iff (f := Way.unmarked), hf way, hsame, ← hf other, List.map_eq_nil_iff]

end Blind

namespace Regex

/-- The place itself, after or before the places that are further on. -/
def prefer (greedy : Bool) (more : List Way) (way : Way) : List Way :=
  if greedy then more ++ [way] else way :: more

theorem mem_prefer {greedy : Bool} {more : List Way} {way after : Way} :
    after ∈ prefer greedy more way ↔ after ∈ more ∨ after = way := by
  cases greedy <;> simp [prefer, or_comm]

theorem map_prefer (greedy : Bool) (more : List Way) (way : Way) (f : Way → Way) :
    (prefer greedy more way).map f = prefer greedy (more.map f) (f way) := by
  cases greedy <;> simp [prefer]

/-- Up to `limit` rounds from a place, one after the other. -/
def rounds (greedy : Bool) (round : Way → List Way) : Nat → Way → List Way
  | 0, way => [way]
  | limit + 1, way => prefer greedy ((round way).flatMap (rounds greedy round limit)) way

/-- All ways through the expression, the preferred one first. -/
def ways : Regex → Way → List Way
  | empty, way => [way]
  | chars s, way => way.take s
  | look l, way => if l.holds way.before way.rest.head? then [way] else []
  | seq r s, way => (r.ways way).flatMap s.ways
  | alt r s, way => r.ways way ++ s.ways way
  | group i r, way => (r.ways (way.mark (2 * i - 2))).map (·.mark (2 * i - 1))
  | opt greedy r, way => prefer greedy (r.ways way) way
  | star greedy r, way => rounds greedy r.ways way.rest.length way
  | plus greedy r, way => (r.ways way).flatMap fun way ↦ rounds greedy r.ways way.rest.length way

/-- The body of every repetition consumes text. -/
def isSteady : Regex → Bool
  | empty => true
  | chars _ => true
  | look _ => true
  | seq r s => r.isSteady && s.isSteady
  | alt r s => r.isSteady && s.isSteady
  | group _ r => r.isSteady
  | opt _ r => r.isSteady
  | star _ r => r.consumes && r.isSteady
  | plus _ r => r.consumes && r.isSteady

section rounds

variable {greedy : Bool} {round : Way → List Way}

theorem exists_passes_of_mem_rounds
    (hround : ∀ way, ∀ after ∈ round way, ∃ piece, way.Passes piece after) {limit : Nat}
    {way after : Way} (hafter : after ∈ rounds greedy round limit way) :
    ∃ piece, way.Passes piece after := by
  induction limit generalizing way with
  | zero =>
    rw [List.mem_singleton.1 hafter]
    exact ⟨[], .refl way⟩
  | succ limit ih =>
    rcases mem_prefer.1 hafter with hmore | rfl
    · obtain ⟨middle, hmiddle, hmem⟩ := List.mem_flatMap.1 hmore
      obtain ⟨piece, hpiece⟩ := hround way middle hmiddle
      obtain ⟨others, hothers⟩ := ih hmem
      exact ⟨piece ++ others, hpiece.trans hothers⟩
    · exact ⟨[], .refl after⟩

theorem rounds_of_eq_nil {way : Way} (hround : round way = []) (limit : Nat) :
    rounds greedy round limit way = [way] := by
  cases limit with
  | zero => rfl
  | succ limit => simp [rounds, hround, prefer]

/-- There are no more rounds than characters, so a higher limit makes no difference. -/
theorem rounds_eq_rounds
    (hround : ∀ way, ∀ after ∈ round way, after.rest.length < way.rest.length) {limit other : Nat}
    {way : Way} (hlimit : way.rest.length ≤ limit) (hother : way.rest.length ≤ other) :
    rounds greedy round limit way = rounds greedy round other way := by
  have hend (way : Way) (hzero : way.rest.length ≤ 0) : round way = [] := by
    apply List.eq_nil_iff_forall_not_mem.2
    intro after hafter
    have hlt := hround way after hafter
    omega
  induction limit generalizing other way with
  | zero => rw [rounds_of_eq_nil (hend way hlimit), rounds_of_eq_nil (hend way hlimit)]
  | succ limit ih =>
    cases other with
    | zero => rw [rounds_of_eq_nil (hend way hother), rounds_of_eq_nil (hend way hother)]
    | succ other =>
      have hmore : (round way).flatMap (rounds greedy round limit) =
          (round way).flatMap (rounds greedy round other) := by
        apply List.flatMap_congr
        intro after hafter
        have hlt := hround way after hafter
        exact ih (by omega) (by omega)
      rw [rounds, rounds, hmore]

theorem blind_rounds (hround : Blind round) (limit : Nat) :
    Blind (rounds greedy round limit) := by
  induction limit with
  | zero =>
    intro way
    rfl
  | succ limit ih =>
    intro way
    rw [rounds, rounds, map_prefer, map_prefer, hround.flatMap ih way]
    rfl

end rounds

/-- A way goes through a piece of the text, which is not empty if the expression consumes text. -/
theorem exists_passes {r : Regex} {way after : Way} (hafter : after ∈ r.ways way) :
    ∃ piece, way.Passes piece after ∧ (r.consumes → piece ≠ []) := by
  induction r generalizing way after with
  | empty =>
    rw [List.mem_singleton.1 hafter]
    exact ⟨[], .refl way, by simp [consumes]⟩
  | chars s =>
    obtain ⟨c, -, hpasses, -⟩ := Way.passes_of_mem_take hafter
    exact ⟨[c], hpasses, fun _ ↦ List.cons_ne_nil c []⟩
  | look l =>
    unfold ways at hafter
    split at hafter
    · rw [List.mem_singleton.1 hafter]
      exact ⟨[], .refl way, by simp [consumes]⟩
    · cases hafter
  | seq r s ihr ihs =>
    obtain ⟨middle, hmiddle, hmem⟩ := List.mem_flatMap.1 hafter
    obtain ⟨piece, hpiece, hfirst⟩ := ihr hmiddle
    obtain ⟨more, hmore, hsecond⟩ := ihs hmem
    refine ⟨piece ++ more, hpiece.trans hmore, ?_⟩
    intro hconsumes
    have hor : r.consumes = true ∨ s.consumes = true := by simpa [consumes] using hconsumes
    rcases hor with hr | hs
    · simp [hfirst hr]
    · simp [hsecond hs]
  | alt r s ihr ihs =>
    have hboth : (alt r s).consumes → r.consumes ∧ s.consumes := by simp [consumes]
    rcases List.mem_append.1 hafter with hr | hs
    · obtain ⟨piece, hpiece, hfirst⟩ := ihr hr
      exact ⟨piece, hpiece, fun hconsumes ↦ hfirst (hboth hconsumes).1⟩
    · obtain ⟨piece, hpiece, hsecond⟩ := ihs hs
      exact ⟨piece, hpiece, fun hconsumes ↦ hsecond (hboth hconsumes).2⟩
  | group i r ih =>
    obtain ⟨inner, hinner, rfl⟩ := List.mem_map.1 hafter
    obtain ⟨piece, hpiece, hfirst⟩ := ih hinner
    exact ⟨piece, ⟨hpiece.rest_eq, hpiece.offset_eq, hpiece.before_eq⟩, hfirst⟩
  | opt greedy r ih =>
    rcases mem_prefer.1 hafter with hr | rfl
    · obtain ⟨piece, hpiece, -⟩ := ih hr
      exact ⟨piece, hpiece, by simp [consumes]⟩
    · exact ⟨[], .refl after, by simp [consumes]⟩
  | star greedy r ih =>
    obtain ⟨piece, hpiece⟩ := exists_passes_of_mem_rounds
      (fun way after hafter ↦ (ih hafter).imp fun _ ↦ And.left) hafter
    exact ⟨piece, hpiece, by simp [consumes]⟩
  | plus greedy r ih =>
    obtain ⟨middle, hmiddle, hmem⟩ := List.mem_flatMap.1 hafter
    obtain ⟨piece, hpiece, hfirst⟩ := ih hmiddle
    obtain ⟨more, hmore⟩ := exists_passes_of_mem_rounds
      (fun way after hafter ↦ (ih hafter).imp fun _ ↦ And.left) hmem
    refine ⟨piece ++ more, hpiece.trans hmore, ?_⟩
    intro hconsumes
    simp [hfirst hconsumes]

theorem length_lt_of_consumes {r : Regex} (hconsumes : r.consumes) {way after : Way}
    (hafter : after ∈ r.ways way) : after.rest.length < way.rest.length := by
  obtain ⟨piece, hpiece, hne⟩ := exists_passes hafter
  exact hpiece.length_lt (hne hconsumes)

/-- A repetition goes through its body and then on as a repetition, or not at all. -/
theorem ways_star {greedy : Bool} {r : Regex} (hconsumes : r.consumes) (way : Way) :
    (star greedy r).ways way = prefer greedy ((r.ways way).flatMap (star greedy r).ways) way := by
  have hround (way after : Way) (hafter : after ∈ r.ways way) :
      after.rest.length < way.rest.length := length_lt_of_consumes hconsumes hafter
  calc
    _ = rounds greedy r.ways (way.rest.length + 1) way :=
      rounds_eq_rounds hround (Nat.le_refl _) (Nat.le_succ _)
    _ = _ := by
      rw [rounds]
      congr 1
      apply List.flatMap_congr
      intro after hafter
      have hlt := hround way after hafter
      exact rounds_eq_rounds hround (by omega) (Nat.le_refl _)

theorem ways_plus (greedy : Bool) (r : Regex) (way : Way) :
    (plus greedy r).ways way = (r.ways way).flatMap (star greedy r).ways := rfl

theorem blind_ways (r : Regex) : Blind r.ways := by
  induction r with
  | empty =>
    intro way
    rfl
  | chars s =>
    intro way
    obtain ⟨before, rest, offset, slots⟩ := way
    cases rest with
    | nil => rfl
    | cons c cs =>
      dsimp only [ways, Way.take, Way.unmarked]
      split <;> rfl
  | look l =>
    intro way
    dsimp only [ways]
    change _ = (if l.holds way.before way.rest.head? then [way.unmarked] else []).map Way.unmarked
    split <;> rfl
  | seq r s ihr ihs => exact ihr.flatMap ihs
  | alt r s ihr ihs =>
    intro way
    rw [ways, ways, List.map_append, List.map_append, ihr way, ihs way]
  | group i r ih =>
    intro way
    rw [ways, ways, List.map_map, List.map_map]
    exact ih (way.mark _)
  | opt greedy r ih =>
    intro way
    rw [ways, ways, map_prefer, map_prefer, ih way]
    rfl
  | star greedy r ih =>
    intro way
    exact blind_rounds ih _ way
  | plus greedy r ih =>
    have hloop : Blind (star greedy r).ways := fun way ↦ blind_rounds ih _ way
    exact ih.flatMap hloop

end Regex

end LexTable
