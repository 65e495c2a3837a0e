import LexTable.Regex.Matcher

/-!
# Matches stay inside the text

A match is no longer than the text that follows its start, and every group that took part lies
inside the match. The search keeps one invariant: no slot that it has written at a place, neither
of a waiting way nor of the accepted one, is beyond that place.
-/

namespace LexTable.Matcher

/-- No slot is beyond `offset`. -/
def Within (offset : Nat) (slots : Slots) : Prop :=
  ∀ bound, some bound ∈ slots → bound ≤ offset

theorem within_replicate (offset count : Nat) : Within offset (List.replicate count none) := by
  intro bound hbound
  have hnone := List.eq_of_mem_replicate hbound
  cases hnone

theorem Within.mono {offset later : Nat} {slots : Slots} (hslots : Within offset slots)
    (hle : offset ≤ later) : Within later slots := by
  intro bound hbound
  exact Nat.le_trans (hslots bound hbound) hle

theorem Within.set {offset : Nat} {slots : Slots} (hslots : Within offset slots) (slot : Nat) :
    Within offset (slots.set slot (some offset)) := by
  intro bound hbound
  rcases List.mem_or_eq_of_mem_set hbound with hold | hnew
  · exact hslots bound hold
  · exact Nat.le_of_eq (Option.some.inj hnew)

/-- No slot of a search is beyond the place that is searched. -/
structure Search.Within (offset : Nat) (search : Search) : Prop where
  waiting : ∀ thread ∈ search.waiting, Matcher.Within offset thread.slots
  accepted : ∀ slots, search.accepted = some slots → Matcher.Within offset slots

theorem Search.within_empty (offset : Nat) : Search.Within offset {} where
  waiting := by simp
  accepted := by simp

/-- The invariant of a search survives the move. -/
def Keeps (offset : Nat) (move : Move) : Prop :=
  ∀ slots search, Within offset slots → search.Within offset → (move slots search).Within offset

theorem keeps_dead (offset : Nat) : Keeps offset dead :=
  fun _ _ _ hsearch ↦ hsearch

theorem keeps_accept (offset : Nat) : Keeps offset accept := by
  intro slots search hslots hsearch
  unfold accept
  split
  · exact hsearch
  · refine ⟨hsearch.waiting, ?_⟩
    intro accepted haccepted
    have hsame : slots = accepted := by simpa using haccepted
    rw [← hsame]
    exact hslots

theorem Keeps.once {offset : Nat} {move : Move} (hmove : Keeps offset move) (rest : Rest) :
    Keeps offset (once rest move) := by
  intro slots search hslots hsearch
  unfold Matcher.once
  split
  · exact hsearch
  · exact hmove slots _ hslots ⟨hsearch.waiting, hsearch.accepted⟩

theorem keeps_take (place : Place) (s : CharSet) (rest : Rest) (offset : Nat) :
    Keeps offset (place.take s rest) := by
  intro slots search hslots hsearch
  unfold Place.take
  split
  · refine ⟨?_, hsearch.accepted⟩
    intro thread hthread
    rcases List.mem_cons.1 hthread with hnew | hold
    · rw [hnew]
      exact hslots
    · exact hsearch.waiting thread hold
  · exact hsearch

/-- The expression is followed part by part, and each part ends in a move that keeps the
invariant. -/
theorem Keeps.explore (place : Place) (r : Regex) {rest : Rest} {next : Move}
    (hnext : Keeps place.offset next) : Keeps place.offset (explore place r rest next) := by
  induction r generalizing rest next with
  | empty => exact hnext
  | chars s => exact keeps_take place s rest place.offset
  | look l =>
    intro slots search hslots hsearch
    unfold Matcher.explore
    split
    · exact hnext slots search hslots hsearch
    · exact hsearch
  | seq r s ihr ihs => exact ihr ((ihs hnext).once _)
  | alt r s ihr ihs =>
    intro slots search hslots hsearch
    have hfirst : (Matcher.explore place r rest next slots search).Within place.offset :=
      ihr hnext slots search hslots hsearch
    exact ihs hnext slots _ hslots hfirst
  | group i r ih =>
    intro slots search hslots hsearch
    have hclose : Keeps place.offset
        (fun slots ↦ next (slots.set (2 * i - 1) (some place.offset))) := by
      intro slots search hslots hsearch
      exact hnext _ search (hslots.set _) hsearch
    exact ih hclose _ search (hslots.set _) hsearch
  | opt greedy r ih =>
    intro slots search hslots hsearch
    unfold Matcher.explore
    split
    · exact hnext slots _ hslots (ih hnext slots search hslots hsearch)
    · exact ih hnext slots _ hslots (hnext slots search hslots hsearch)
  | star greedy r ih =>
    intro slots search hslots hsearch
    have hround : Keeps place.offset
        (Matcher.explore place r (.run (.star greedy r) :: rest) dead) :=
      ih (keeps_dead place.offset)
    unfold Matcher.explore
    dsimp only
    split
    · exact hnext slots _ hslots (hround slots search hslots hsearch)
    · exact hround slots _ hslots (hnext slots search hslots hsearch)
  | plus greedy r ih => exact ih (hnext.once _)

theorem keeps_enter (place : Place) (rest : Rest) : Keeps place.offset (enter place rest) := by
  induction rest with
  | nil => exact keeps_accept place.offset
  | cons frame rest ih =>
    cases frame with
    | run r => exact (ih.explore place r).once _
    | close i =>
      intro slots search hslots hsearch
      exact ih _ search (hslots.set _) hsearch

theorem visit_within (place : Place) (threads : List Thread)
    (hthreads : ∀ thread ∈ threads, Within place.offset thread.slots) :
    (visit place threads).Within place.offset := by
  have hfold (search : Search) (hsearch : search.Within place.offset) :
      (threads.foldl (fun search thread ↦ enter place thread.rest thread.slots search)
        search).Within place.offset := by
    induction threads generalizing search with
    | nil => exact hsearch
    | cons thread threads ih =>
      rw [List.forall_mem_cons] at hthreads
      exact ih hthreads.2 _ (keeps_enter place thread.rest _ search hthreads.1 hsearch)
  exact hfold {} (Search.within_empty place.offset)

/-- The end of a match that was found, with its slots, is no further than `offset`. -/
def Reached (offset : Nat) (best : Option (Nat × Slots)) : Prop :=
  ∀ stop slots, best = some (stop, slots) → stop ≤ offset ∧ Within stop slots

theorem Reached.mono {offset later : Nat} {best : Option (Nat × Slots)}
    (hbest : Reached offset best) (hle : offset ≤ later) : Reached later best := by
  intro stop slots hsome
  have hreached := hbest stop slots hsome
  exact ⟨Nat.le_trans hreached.1 hle, hreached.2⟩

theorem Reached.or {offset : Nat} {best : Option (Nat × Slots)} {search : Search}
    (hbest : Reached offset best) (hsearch : search.Within offset) :
    Reached offset ((search.accepted.map fun slots ↦ (offset, slots)).or best) := by
  intro stop slots hsome
  cases haccepted : search.accepted with
  | none =>
    rw [haccepted] at hsome
    exact hbest stop slots hsome
  | some accepted =>
    rw [haccepted] at hsome
    obtain ⟨rfl, rfl⟩ : offset = stop ∧ accepted = slots := by simpa using hsome
    exact ⟨Nat.le_refl _, hsearch.accepted accepted haccepted⟩

theorem run_reached (before : Option Char) (offset : Nat) (threads : List Thread)
    (best : Option (Nat × Slots)) (text : List Char)
    (hthreads : ∀ thread ∈ threads, Within offset thread.slots) (hbest : Reached offset best) :
    Reached (offset + text.length) (run before offset threads best text) := by
  induction text generalizing before offset threads best with
  | nil =>
    have hsearch := visit_within ⟨before, none, offset⟩ threads hthreads
    exact hbest.or hsearch
  | cons c text ih =>
    have hsearch := visit_within ⟨before, some c, offset⟩ threads hthreads
    have hnext := hbest.or hsearch
    unfold run
    dsimp only
    split
    · exact hnext.mono (Nat.le_add_right _ _)
    · rw [List.length_cons, Nat.add_comm text.length, ← Nat.add_assoc]
      apply ih _ _ _ _ _ (hnext.mono (Nat.le_succ _))
      intro thread hthread
      have hwaiting := hsearch.waiting thread (List.mem_reverse.1 hthread)
      exact hwaiting.mono (Nat.le_succ _)

end LexTable.Matcher

namespace LexTable

/-- The match does not go beyond a text of the given length, nor its groups beyond the match. -/
structure Match.Fits (m : Match) (length : Nat) : Prop where
  length_le : m.length ≤ length
  group_le : ∀ i first last, m.group? i = some (first, last) → last ≤ m.length

theorem Regex.match?_fits {r : Regex} {before : Option Char} {text : List Char} {m : Match}
    (hmatch : r.match? before text = some m) : m.Fits text.length := by
  obtain ⟨found, hrun, rfl⟩ := Option.map_eq_some_iff.1 hmatch
  have hthread : Matcher.Within 0 (List.replicate (2 * r.lastGroup) none) :=
    Matcher.within_replicate 0 _
  have hnone : Matcher.Reached 0 none := by
    intro stop slots hsome
    cases hsome
  have hreached := Matcher.run_reached before 0 _ none text (List.forall_mem_singleton.2 hthread)
    hnone found.1 found.2 hrun
  rw [Nat.zero_add] at hreached
  refine ⟨hreached.1, ?_⟩
  intro i first last hgroup
  apply hreached.2 last
  unfold Match.group? at hgroup
  split at hgroup
  · next hfirst hlast =>
    obtain ⟨-, rfl⟩ : _ = first ∧ _ = last := by simpa using hgroup
    exact List.mem_of_getElem? hlast
  · cases hgroup

end LexTable
