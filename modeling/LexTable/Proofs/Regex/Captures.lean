import LexTable.Proofs.Regex.Bounds
import Mathlib.Data.Finset.Card

/-!
# How groups lie in a match

If no group can be entered twice, the groups of a match lie one behind the other or one inside the
other, an earlier one around a later one. The search keeps this of all groups that were entered: the
ones that are still open are on the stack in the order in which they will be closed.
-/

namespace LexTable

/-- The groups in the order in which a way may enter them; a loop may enter its groups again. -/
def Regex.groups : Regex → List Nat
  | empty => []
  | chars _ => []
  | look _ => []
  | seq r s => r.groups ++ s.groups
  | alt r s => r.groups ++ s.groups
  | group i r => i :: r.groups
  | opt _ r => r.groups
  | star _ r => r.groups ++ r.groups
  | plus _ r => r.groups ++ r.groups

/-- The groups are numbered from 1 on as they are entered, each of them once. -/
def Regex.Ordered (r : Regex) : Prop :=
  (0 :: r.groups).Pairwise (· < ·)

namespace Regex

theorem hasGroup_iff_mem_groups {r : Regex} {i : Nat} : r.hasGroup i ↔ i ∈ r.groups := by
  induction r with
  | empty | chars | look => simp [hasGroup, groups]
  | seq r s ihr ihs => simp [hasGroup, groups, ihr, ihs]
  | alt r s ihr ihs => simp [hasGroup, groups, ihr, ihs]
  | group j r ih => simp [hasGroup, groups, ih]
  | opt _ r ih => exact ih
  | star _ r ih => simp [hasGroup, groups, ih]
  | plus _ r ih => simp [hasGroup, groups, ih]

theorem le_lastGroup_of_mem_groups {r : Regex} {i : Nat} (hi : i ∈ r.groups) :
    i ≤ r.lastGroup := by
  induction r with
  | empty | chars | look => cases hi
  | seq r s ihr ihs =>
    rcases List.mem_append.1 hi with hr | hs
    · exact (ihr hr).trans (Nat.le_max_left ..)
    · exact (ihs hs).trans (Nat.le_max_right ..)
  | alt r s ihr ihs =>
    rcases List.mem_append.1 hi with hr | hs
    · exact (ihr hr).trans (Nat.le_max_left ..)
    · exact (ihs hs).trans (Nat.le_max_right ..)
  | group j r ih =>
    rcases List.mem_cons.1 hi with rfl | hr
    · exact Nat.le_max_left ..
    · exact (ih hr).trans (Nat.le_max_right ..)
  | opt _ r ih => exact ih hi
  | star _ r ih => exact (List.mem_append.1 hi).elim ih ih
  | plus _ r ih => exact (List.mem_append.1 hi).elim ih ih

/-- A group counts once, however often it stands in the expression. -/
theorem groupCount_eq_card {r : Regex} (hr : 0 ∉ r.groups) :
    r.groupCount = r.groups.toFinset.card := by
  have hnodup : ((List.range' 1 r.lastGroup).filter r.hasGroup).Nodup :=
    (List.nodup_range' ..).filter _
  have hsame : ((List.range' 1 r.lastGroup).filter r.hasGroup).toFinset = r.groups.toFinset := by
    ext i
    rw [List.mem_toFinset, List.mem_toFinset, List.mem_filter, hasGroup_iff_mem_groups,
      List.mem_range'_1, and_iff_right_iff_imp]
    intro hi
    have hpos : i ≠ 0 := by
      rintro rfl
      exact hr hi
    have hle := le_lastGroup_of_mem_groups hi
    omega
  rw [groupCount, List.countP_eq_length_filter, ← List.toFinset_card_of_nodup hnodup, hsame]

end Regex

namespace Matcher

/-- Group `i` was entered at `first`. -/
def Begins (slots : Slots) (i first : Nat) : Prop :=
  slots[2 * i - 2]? = some (some first)

/-- Group `i` was left at `last`. -/
def Ends (slots : Slots) (i last : Nat) : Prop :=
  slots[2 * i - 1]? = some (some last)

section slots

variable {slots : Slots} {i j offset bound : Nat}

theorem Within.begins_le (hslots : Within offset slots) (hbegins : Begins slots i bound) :
    bound ≤ offset :=
  hslots bound (List.mem_of_getElem? hbegins)

theorem Within.ends_le (hslots : Within offset slots) (hends : Ends slots i bound) :
    bound ≤ offset :=
  hslots bound (List.mem_of_getElem? hends)

theorem begins_set_begin (hi : 0 < i) (hj : 0 < j)
    (hbegins : Begins (slots.set (2 * i - 2) (some offset)) j bound) :
    j = i ∧ bound = offset ∨ j ≠ i ∧ Begins slots j bound := by
  rw [Begins, List.getElem?_set] at hbegins
  split at hbegins
  · next hsame =>
    split at hbegins
    · exact .inl ⟨by omega, by simpa using hbegins.symm⟩
    · cases hbegins
  · next hother => exact .inr ⟨fun hji ↦ hother (by rw [hji]), hbegins⟩

theorem ends_set_begin (hi : 0 < i) (hj : 0 < j)
    (hends : Ends (slots.set (2 * i - 2) (some offset)) j bound) : Ends slots j bound := by
  rwa [Ends, List.getElem?_set_ne (by omega)] at hends

theorem begins_set_end (hi : 0 < i) (hj : 0 < j)
    (hbegins : Begins (slots.set (2 * i - 1) (some offset)) j bound) : Begins slots j bound := by
  rwa [Begins, List.getElem?_set_ne (by omega)] at hbegins

theorem ends_set_end (hi : 0 < i) (hj : 0 < j)
    (hends : Ends (slots.set (2 * i - 1) (some offset)) j bound) :
    j = i ∧ bound = offset ∨ j ≠ i ∧ Ends slots j bound := by
  rw [Ends, List.getElem?_set] at hends
  split at hends
  · next hsame =>
    split at hends
    · exact .inl ⟨by omega, by simpa using hends.symm⟩
    · cases hends
  · next hother => exact .inr ⟨fun hji ↦ hother (by rw [hji]), hends⟩

end slots

/-- The groups that a way may still enter. -/
def ahead : Rest → List Nat
  | [] => []
  | .run r :: rest => r.groups ++ ahead rest
  | .close _ :: rest => ahead rest

/-- The groups that are open, the innermost one first. -/
def closing : Rest → List Nat
  | [] => []
  | .run _ :: rest => closing rest
  | .close i :: rest => i :: closing rest

/-- Groups that were entered lie one behind the other or one inside the other. -/
structure Nested (offset : Nat) (rest : Rest) (slots : Slots) : Prop where
  within : Within offset slots
  order : (0 :: ((closing rest).reverse ++ ahead rest)).Pairwise (· < ·)
  entered_lt : ∀ i first, 0 < i → Begins slots i first → ∀ later ∈ ahead rest, i < later
  inside : ∀ i ∈ closing rest, ∀ j first start, i < j → Begins slots i first →
    Begins slots j start → first ≤ start
  apart : ∀ i j first start, 0 < i → i ∉ closing rest → i < j → Begins slots i first →
    Begins slots j start → (∀ last, Ends slots i last → last ≤ start) ∨
      first ≤ start ∧ j ∉ closing rest ∧
        ∀ last stop, Ends slots i last → Ends slots j stop → stop ≤ last

namespace Nested

variable {offset i : Nat} {r : Regex} {rest : Rest} {slots : Slots}

theorem of_sublist {other : Rest} (hnested : Nested offset rest slots)
    (hclosing : closing other = closing rest) (hahead : (ahead other).Sublist (ahead rest)) :
    Nested offset other slots where
  within := hnested.within
  order := by
    rw [hclosing]
    exact hnested.order.sublist ((hahead.append_left _).cons_cons 0)
  entered_lt i first hi hbegins later hlater :=
    hnested.entered_lt i first hi hbegins later (hahead.subset hlater)
  inside := by
    rw [hclosing]
    exact hnested.inside
  apart := by
    rw [hclosing]
    exact hnested.apart

theorem later (hnested : Nested offset rest slots) : Nested (offset + 1) rest slots :=
  { hnested with within := hnested.within.mono (Nat.le_succ offset) }

theorem pos_of_mem_closing (hnested : Nested offset rest slots) (hi : i ∈ closing rest) : 0 < i :=
  (List.pairwise_cons.1 hnested.order).1 i
    (List.mem_append_left _ (List.mem_reverse.2 hi))

theorem pos_of_mem_ahead (hnested : Nested offset rest slots) (hi : i ∈ ahead rest) : 0 < i :=
  (List.pairwise_cons.1 hnested.order).1 i (List.mem_append_right _ hi)

/-- A group that is entered lies inside those that are open and behind those that are not. -/
theorem enter (hnested : Nested offset (.run (.group i r) :: rest) slots) :
    Nested offset (.run r :: .close i :: rest) (slots.set (2 * i - 2) (some offset)) := by
  have hi : 0 < i := hnested.pos_of_mem_ahead List.mem_cons_self
  have hbefore (j first : Nat) (hj : 0 < j) (hbegins : Begins slots j first) : j < i :=
    hnested.entered_lt j first hj hbegins i List.mem_cons_self
  have horder : (0 :: ((closing rest).reverse ++ i :: (r.groups ++ ahead rest))).Pairwise (· < ·) :=
    hnested.order
  have hahead := (List.pairwise_append.1 (List.pairwise_cons.1 horder).2).2.1
  refine ⟨hnested.within.set _, ?_, ?_, ?_, ?_⟩
  · change (0 :: ((i :: closing rest).reverse ++ (r.groups ++ ahead rest))).Pairwise (· < ·)
    rwa [List.reverse_cons, List.append_assoc, List.singleton_append]
  · intro j first hj hbegins later hlater
    rcases begins_set_begin hi hj hbegins with ⟨rfl, -⟩ | ⟨-, hbegins⟩
    · exact (List.pairwise_cons.1 hahead).1 later hlater
    · exact hnested.entered_lt j first hj hbegins later (List.mem_cons_of_mem _ hlater)
  · intro k hk j first start hlt hfirst hstart
    have hpos : 0 < k := by
      rcases List.mem_cons.1 hk with rfl | hopen
      · exact hi
      · exact hnested.pos_of_mem_closing hopen
    rcases begins_set_begin hi (Nat.lt_trans hpos hlt) hstart with ⟨rfl, rfl⟩ | ⟨-, hstart⟩
    · rcases begins_set_begin hi hpos hfirst with ⟨-, rfl⟩ | ⟨-, hfirst⟩
      · exact Nat.le_refl _
      · exact hnested.within.begins_le hfirst
    · have hji := hbefore j start (Nat.lt_trans hpos hlt) hstart
      have hne : k ≠ i := Nat.ne_of_lt (Nat.lt_trans hlt hji)
      rcases begins_set_begin hi hpos hfirst with ⟨hsame, -⟩ | ⟨-, hfirst⟩
      · exact absurd hsame hne
      · exact hnested.inside k (List.mem_of_ne_of_mem hne hk) j first start hlt hfirst hstart
  · intro k j first start hpos hk hlt hfirst hstart
    obtain ⟨hne, hclosed⟩ : k ≠ i ∧ k ∉ closing rest := by simpa [closing] using hk
    rcases begins_set_begin hi hpos hfirst with ⟨hsame, -⟩ | ⟨-, hfirst⟩
    · exact absurd hsame hne
    rcases begins_set_begin hi (Nat.lt_trans hpos hlt) hstart with ⟨rfl, rfl⟩ | ⟨hji, hstart⟩
    · exact .inl fun last hends ↦ hnested.within.ends_le (ends_set_begin hi hpos hends)
    · rcases hnested.apart k j first start hpos hclosed hlt hfirst hstart with
        hbehind | ⟨hle, hj, hwithin⟩
      · exact .inl fun last hends ↦ hbehind last (ends_set_begin hi hpos hends)
      · have hjclosed : j ∉ closing rest := hj
        refine .inr ⟨hle, by simp [closing, hji, hjclosed], ?_⟩
        intro last stop hlast hstop
        exact hwithin last stop (ends_set_begin hi hpos hlast)
          (ends_set_begin hi (Nat.lt_trans hpos hlt) hstop)

/-- The innermost open group is left behind all groups that were entered inside it. -/
theorem leave (hnested : Nested offset (.close i :: rest) slots) :
    Nested offset rest (slots.set (2 * i - 1) (some offset)) := by
  have hi : 0 < i := hnested.pos_of_mem_closing List.mem_cons_self
  have horder : (0 :: ((closing rest).reverse ++ i :: ahead rest)).Pairwise (· < ·) := by
    have hall : (0 :: ((i :: closing rest).reverse ++ ahead rest)).Pairwise (· < ·) := hnested.order
    rwa [List.reverse_cons, List.append_assoc, List.singleton_append] at hall
  have hopen (j : Nat) (hj : j ∈ closing rest) : j < i :=
    (List.pairwise_append.1 (List.pairwise_cons.1 horder).2).2.2 j (List.mem_reverse.2 hj) i
      List.mem_cons_self
  refine ⟨hnested.within.set _, ?_, ?_, ?_, ?_⟩
  · exact horder.sublist (((List.sublist_cons_self i _).append_left _).cons_cons 0)
  · intro j first hj hbegins
    exact hnested.entered_lt j first hj (begins_set_end hi hj hbegins)
  · intro k hk j first start hlt hfirst hstart
    have hpos := hnested.pos_of_mem_closing (List.mem_cons_of_mem _ hk)
    exact hnested.inside k (List.mem_cons_of_mem _ hk) j first start hlt
      (begins_set_end hi hpos hfirst) (begins_set_end hi (Nat.lt_trans hpos hlt) hstart)
  · intro k j first start hpos hk hlt hfirst hstart
    have hj := Nat.lt_trans hpos hlt
    have hbegins := begins_set_end hi hpos hfirst
    have hother := begins_set_end hi hj hstart
    by_cases hki : k = i
    · subst hki
      refine .inr ⟨hnested.inside k List.mem_cons_self j first start hlt hbegins hother, ?_, ?_⟩
      · exact fun hmem ↦ absurd (hopen j hmem) (Nat.lt_asymm hlt)
      · intro last stop hlast hstop
        rcases ends_set_end hi hpos hlast with ⟨-, rfl⟩ | ⟨hne, -⟩
        · rcases ends_set_end hi hj hstop with ⟨-, rfl⟩ | ⟨-, hends⟩
          · exact Nat.le_refl _
          · exact hnested.within.ends_le hends
        · exact absurd rfl hne
    · have hends {last : Nat} (hlast : Ends (slots.set (2 * i - 1) (some offset)) k last) :
          Ends slots k last := by
        rcases ends_set_end hi hpos hlast with ⟨hsame, -⟩ | ⟨-, hends⟩
        · exact absurd hsame hki
        · exact hends
      have hclosed : k ∉ closing (.close i :: rest) := by simp [closing, hki, hk]
      rcases hnested.apart k j first start hpos hclosed hlt hbegins hother with
        hbehind | ⟨hle, hnot, hwithin⟩
      · exact .inl fun last hlast ↦ hbehind last (hends hlast)
      · obtain ⟨hji, hjopen⟩ : j ≠ i ∧ j ∉ closing rest := by simpa [closing] using hnot
        refine .inr ⟨hle, hjopen, ?_⟩
        intro last stop hlast hstop
        rcases ends_set_end hi hj hstop with ⟨hsame, -⟩ | ⟨-, hstop⟩
        · exact absurd hsame hji
        · exact hwithin last stop (hends hlast) hstop

/-- There are no groups in a loop. -/
theorem round {looped : Regex} (hgroups : looped.groups = r.groups ++ r.groups) {greedy : Bool}
    (hnested : Nested offset (.run looped :: rest) slots) :
    Nested offset (.run r :: .run (.star greedy r) :: rest) slots := by
  have hnone : r.groups = [] := by
    rw [List.eq_nil_iff_forall_not_mem]
    intro i hi
    have horder := (List.pairwise_append.1 (List.pairwise_cons.1 hnested.order).2).2.1
    rw [ahead, hgroups] at horder
    have htwice := (List.pairwise_append.1 (List.pairwise_append.1 horder).1).2.2 i hi i hi
    exact absurd htwice (Nat.lt_irrefl i)
  have hahead : ahead (.run r :: .run (.star greedy r) :: rest) = ahead (.run looped :: rest) := by
    rw [ahead, ahead, Regex.groups, ahead, hgroups, hnone]
    rfl
  exact hnested.of_sublist rfl (hahead ▸ .refl _)

end Nested

/-- The ways of a search have groups that lie one behind the other or one inside the other. -/
structure Search.Nested (offset : Nat) (search : Search) : Prop where
  waiting : ∀ thread ∈ search.waiting, Matcher.Nested offset thread.rest thread.slots
  accepted : ∀ slots, search.accepted = some slots → Matcher.Nested offset [] slots

/-- The invariant of a search survives the move, made with this stack still to be matched. -/
def Carries (offset : Nat) (rest : Rest) (move : Move) : Prop :=
  ∀ slots search, Nested offset rest slots → search.Nested offset →
    (move slots search).Nested offset

theorem carries_dead (offset : Nat) (rest : Rest) : Carries offset rest dead :=
  fun _ _ _ hsearch ↦ hsearch

theorem carries_accept (offset : Nat) : Carries offset [] accept := by
  intro slots search hslots hsearch
  unfold accept
  split
  · exact hsearch
  · refine ⟨hsearch.waiting, ?_⟩
    intro accepted haccepted
    obtain rfl : slots = accepted := by simpa using haccepted
    exact hslots

theorem Carries.once {offset : Nat} {rest : Rest} {move : Move} (hmove : Carries offset rest move)
    (entered : Rest) : Carries offset rest (once entered move) := by
  intro slots search hslots hsearch
  unfold Matcher.once
  split
  · exact hsearch
  · exact hmove slots _ hslots ⟨hsearch.waiting, hsearch.accepted⟩

theorem carries_take (place : Place) (s : CharSet) (rest : Rest) (offset : Nat) :
    Carries offset rest (place.take s rest) := by
  intro slots search hslots hsearch
  unfold Place.take
  split
  · refine ⟨?_, hsearch.accepted⟩
    intro thread hthread
    rcases List.mem_cons.1 hthread with rfl | hold
    · exact hslots
    · exact hsearch.waiting thread hold
  · exact hsearch

/-- Each part of an expression leads from the stack with it on top to the stack without it. -/
theorem Carries.explore (place : Place) (r : Regex) {rest : Rest} {next : Move}
    (hnext : Carries place.offset rest next) :
    Carries place.offset (.run r :: rest) (explore place r rest next) := by
  induction r generalizing rest next with
  | empty =>
    intro slots search hslots hsearch
    exact hnext slots search (hslots.of_sublist rfl (.refl _)) hsearch
  | chars s =>
    intro slots search hslots hsearch
    exact carries_take place s rest place.offset slots search (hslots.of_sublist rfl (.refl _))
      hsearch
  | look l =>
    intro slots search hslots hsearch
    unfold Matcher.explore
    split
    · exact hnext slots search (hslots.of_sublist rfl (.refl _)) hsearch
    · exact hsearch
  | seq r s ihr ihs =>
    intro slots search hslots hsearch
    have hahead : ahead (.run r :: .run s :: rest) = ahead (.run (.seq r s) :: rest) := by
      rw [ahead, ahead, ahead, Regex.groups, List.append_assoc]
    exact ihr ((ihs hnext).once _) slots search (hslots.of_sublist rfl (hahead ▸ .refl _)) hsearch
  | alt r s ihr ihs =>
    intro slots search hslots hsearch
    have hfirst : Nested place.offset (.run r :: rest) slots :=
      hslots.of_sublist rfl ((List.sublist_append_left _ _).append_right _)
    have hsecond : Nested place.offset (.run s :: rest) slots :=
      hslots.of_sublist rfl ((List.sublist_append_right _ _).append_right _)
    exact ihs hnext slots _ hsecond (ihr hnext slots search hfirst hsearch)
  | group i r ih =>
    intro slots search hslots hsearch
    have hclose : Carries place.offset (.close i :: rest)
        (fun slots ↦ next (slots.set (2 * i - 1) (some place.offset))) := by
      intro slots search hslots hsearch
      exact hnext _ search hslots.leave hsearch
    exact ih hclose _ search hslots.enter hsearch
  | opt greedy r ih =>
    intro slots search hslots hsearch
    have hround : Nested place.offset (.run r :: rest) slots := hslots.of_sublist rfl (.refl _)
    have hskip : Nested place.offset rest slots :=
      hslots.of_sublist rfl (List.sublist_append_right _ _)
    unfold Matcher.explore
    split
    · exact hnext slots _ hskip (ih hnext slots search hround hsearch)
    · exact ih hnext slots _ hround (hnext slots search hskip hsearch)
  | star greedy r ih =>
    intro slots search hslots hsearch
    have hdead : Carries place.offset (.run r :: .run (.star greedy r) :: rest)
        (Matcher.explore place r (.run (.star greedy r) :: rest) dead) :=
      ih (carries_dead place.offset _)
    have hround : Nested place.offset (.run r :: .run (.star greedy r) :: rest) slots :=
      hslots.round rfl
    have hskip : Nested place.offset rest slots :=
      hslots.of_sublist rfl (List.sublist_append_right _ _)
    unfold Matcher.explore
    dsimp only
    split
    · exact hnext slots _ hskip (hdead slots search hround hsearch)
    · exact hdead slots _ hround (hnext slots search hskip hsearch)
  | plus greedy r ih =>
    intro slots search hslots hsearch
    have hagain : Carries place.offset (.run (.star greedy r) :: rest) next := by
      intro slots search hslots hsearch
      exact hnext slots search (hslots.of_sublist rfl (List.sublist_append_right _ _)) hsearch
    exact ih (hagain.once _) slots search (hslots.round rfl) hsearch

theorem carries_enter (place : Place) (rest : Rest) :
    Carries place.offset rest (enter place rest) := by
  induction rest with
  | nil => exact carries_accept place.offset
  | cons frame rest ih =>
    cases frame with
    | run r => exact (ih.explore place r).once _
    | close i =>
      intro slots search hslots hsearch
      exact ih _ search hslots.leave hsearch

theorem visit_nested (place : Place) (threads : List Thread)
    (hthreads : ∀ thread ∈ threads, Nested place.offset thread.rest thread.slots) :
    (visit place threads).Nested place.offset := by
  have hfold (search : Search) (hsearch : search.Nested place.offset) :
      (threads.foldl (fun search thread ↦ enter place thread.rest thread.slots search)
        search).Nested place.offset := by
    induction threads generalizing search with
    | nil => exact hsearch
    | cons thread threads ih =>
      rw [List.forall_mem_cons] at hthreads
      exact ih hthreads.2 _ (carries_enter place thread.rest _ search hthreads.1 hsearch)
  exact hfold {} ⟨by simp, by simp⟩

/-- The groups of a match that was found. -/
def Found (best : Option (Nat × Slots)) : Prop :=
  ∀ stop slots, best = some (stop, slots) → Nested stop [] slots

theorem Found.or {offset : Nat} {best : Option (Nat × Slots)} {search : Search}
    (hbest : Found best) (hsearch : search.Nested offset) :
    Found ((search.accepted.map fun slots ↦ (offset, slots)).or best) := by
  intro stop slots hsome
  cases haccepted : search.accepted with
  | none =>
    rw [haccepted] at hsome
    exact hbest stop slots hsome
  | some accepted =>
    rw [haccepted] at hsome
    obtain ⟨rfl, rfl⟩ : offset = stop ∧ accepted = slots := by simpa using hsome
    exact hsearch.accepted accepted haccepted

theorem run_found (before : Option Char) (offset : Nat) (threads : List Thread)
    (best : Option (Nat × Slots)) (text : List Char)
    (hthreads : ∀ thread ∈ threads, Nested offset thread.rest thread.slots) (hbest : Found best) :
    Found (run before offset threads best text) := by
  induction text generalizing before offset threads best with
  | nil => exact hbest.or (visit_nested ⟨before, none, offset⟩ threads hthreads)
  | cons c text ih =>
    have hsearch := visit_nested ⟨before, some c, offset⟩ threads hthreads
    have hnext := hbest.or hsearch
    unfold run
    dsimp only
    split
    · exact hnext
    · apply ih _ _ _ _ _ hnext
      intro thread hthread
      exact (hsearch.waiting thread (List.mem_reverse.1 hthread)).later

theorem nested_start (r : Regex) (hordered : r.Ordered) :
    Nested 0 [.run r] (List.replicate (2 * r.lastGroup) none) := by
  have hnone (i first : Nat) : ¬ Begins (List.replicate (2 * r.lastGroup) none) i first := by
    intro hbegins
    cases List.eq_of_mem_replicate (List.mem_of_getElem? hbegins)
  refine ⟨within_replicate 0 _, ?_, ?_, ?_, ?_⟩
  · change (0 :: ([] ++ (r.groups ++ []))).Pairwise (· < ·)
    rwa [List.nil_append, List.append_nil]
  · intro i first hi hbegins
    exact absurd hbegins (hnone i first)
  · intro i hi
    cases hi
  · intro i j first start hi hclosed hlt hbegins
    exact absurd hbegins (hnone i first)

end Matcher

theorem Match.begins_ends_of_group? {m : Match} {i first last : Nat}
    (hgroup : m.group? i = some (first, last)) :
    Matcher.Begins m.slots i first ∧ Matcher.Ends m.slots i last := by
  unfold Match.group? at hgroup
  split at hgroup
  · next hfirst hlast =>
    obtain ⟨rfl, rfl⟩ : _ = first ∧ _ = last := by simpa using hgroup
    exact ⟨hfirst, hlast⟩
  · cases hgroup

/-- Of two groups of a match the later one begins behind the earlier one or lies inside it. -/
theorem Regex.nested_of_match? {r : Regex} (hordered : r.Ordered) {before : Option Char}
    {text : List Char} {m : Match} (hmatch : r.match? before text = some m)
    {i j first last start stop : Nat} (hi : 0 < i) (hlt : i < j)
    (hgroup : m.group? i = some (first, last)) (hother : m.group? j = some (start, stop)) :
    last ≤ start ∨ first ≤ start ∧ stop ≤ last := by
  obtain ⟨found, hrun, rfl⟩ := Option.map_eq_some_iff.1 hmatch
  have hnone : Matcher.Found none := by
    intro stop slots hsome
    cases hsome
  have hnested := Matcher.run_found before 0 _ none text
    (List.forall_mem_singleton.2 (Matcher.nested_start r hordered)) hnone found.1 found.2 hrun
  obtain ⟨hbegins, hends⟩ := Match.begins_ends_of_group? hgroup
  obtain ⟨hbegin, hend⟩ := Match.begins_ends_of_group? hother
  refine (hnested.apart i j first start hi List.not_mem_nil hlt hbegins hbegin).imp ?_ ?_
  · intro hbehind
    exact hbehind last hends
  · rintro ⟨hle, -, hwithin⟩
    exact ⟨hle, hwithin last stop hends hend⟩

end LexTable
