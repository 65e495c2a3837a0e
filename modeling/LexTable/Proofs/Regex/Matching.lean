import LexTable.Proofs.Regex.Ways

/-!
# What the matcher finds

The matcher finds the preferred way through an expression, and nothing if there is no way. It does
not try every way: it goes into a stack of expressions once at each place. What a second visit could
add is behind what the first one has found, and if the first has found nothing, there is no way on.
-/

namespace LexTable

open Matcher

/-- The number of parts of the expression. -/
def Regex.size : Regex → Nat
  | empty => 1
  | chars _ => 1
  | look _ => 1
  | seq r s => r.size + s.size + 1
  | alt r s => r.size + s.size + 1
  | group _ r => r.size + 1
  | opt _ r => r.size + 1
  | star _ r => r.size + 1
  | plus _ r => r.size + 1

theorem Regex.size_pos (r : Regex) : 0 < r.size := by
  cases r <;> simp [size]

namespace Way

def place (way : Way) : Place :=
  ⟨way.before, way.rest.head?, way.offset⟩

def holding (way : Way) (slots : Slots) : Way :=
  { way with slots := slots }

end Way

namespace Matcher

/-- All ways through a stack, the preferred one first. -/
def restWays : Rest → Way → List Way
  | [], way => [way]
  | .run r :: rest, way => (r.ways way).flatMap (restWays rest)
  | .close i :: rest, way => restWays rest (way.mark (2 * i - 1))

/-- What a search may go into without taking a character only lies in stacks of lower weight. -/
def weight : Rest → Nat
  | [] => 0
  | .run r :: rest => r.size + if r.consumes then 0 else weight rest
  | .close _ :: rest => weight rest

section weight

variable {greedy : Bool} {i : Nat} {r s : Regex} {rest : Rest}

theorem lt_weight (hr : ¬ r.consumes) : weight rest < weight (.run r :: rest) := by
  simp [weight, hr, r.size_pos]

theorem weight_seq :
    weight (.run r :: .run s :: rest) ≤ weight (.run (.seq r s) :: rest) := by
  by_cases hr : r.consumes <;> by_cases hs : s.consumes <;>
    simp [weight, Regex.size, Regex.consumes, hr, hs] <;> omega

theorem weight_alt : weight (.run r :: rest) ≤ weight (.run (.alt r s) :: rest) ∧
    weight (.run s :: rest) ≤ weight (.run (.alt r s) :: rest) := by
  by_cases hr : r.consumes <;> by_cases hs : s.consumes <;>
    simp [weight, Regex.size, Regex.consumes, hr, hs] <;> omega

theorem weight_group :
    weight (.run r :: .close i :: rest) ≤ weight (.run (.group i r) :: rest) := by
  by_cases hr : r.consumes <;> simp [weight, Regex.size, Regex.consumes, hr]

theorem weight_opt : weight (.run r :: rest) ≤ weight (.run (.opt greedy r) :: rest) ∧
    weight rest + 1 ≤ weight (.run (.opt greedy r) :: rest) := by
  by_cases hr : r.consumes <;> simp only [weight, Regex.size, Regex.consumes, hr] <;> grind

theorem weight_star (hr : r.consumes) :
    weight (.run r :: .run (.star greedy r) :: rest) ≤ weight (.run (.star greedy r) :: rest) ∧
      weight rest + 1 ≤ weight (.run (.star greedy r) :: rest) := by
  simp [weight, Regex.size, Regex.consumes, hr]
  omega

theorem weight_plus (hr : r.consumes) :
    weight (.run r :: .run (.star greedy r) :: rest) ≤ weight (.run (.plus greedy r) :: rest) := by
  simp [weight, Regex.size, Regex.consumes, hr]

end weight

/-- Every repetition in the stack consumes text in each round. -/
def Steady (rest : Rest) : Prop :=
  ∀ r, Frame.run r ∈ rest → r.isSteady

theorem steady_run_cons {r : Regex} {rest : Rest} :
    Steady (.run r :: rest) ↔ r.isSteady ∧ Steady rest := by
  simp [Steady]

theorem steady_close_cons {i : Nat} {rest : Rest} : Steady (.close i :: rest) ↔ Steady rest := by
  simp [Steady]

theorem blind_restWays (rest : Rest) : Blind (restWays rest) := by
  induction rest with
  | nil =>
    intro way
    rfl
  | cons frame rest ih =>
    cases frame with
    | run r => exact r.blind_ways.flatMap ih
    | close i =>
      intro way
      exact ih (way.mark _)

theorem restWays_holding_eq_nil {rest : Rest} {way : Way} {slots : Slots} :
    restWays rest (way.holding slots) = [] ↔ restWays rest way = [] := by
  have hsame : (way.holding slots).unmarked = way.unmarked := rfl
  exact (blind_restWays rest).eq_nil_iff hsame

/-- What a thread comes to from a place. -/
def Thread.ways (way : Way) (thread : Thread) : List Way :=
  restWays thread.rest (way.holding thread.slots)

theorem head?_append_congr {first second : List Way} (hhead : first.head? = second.head?)
    (more : List Way) : (first ++ more).head? = (second ++ more).head? := by
  rw [List.head?_append, List.head?_append, hhead]

namespace Search

/-- What the waiting ways of a search come to, the preferred one first. -/
def waitingWays (way : Way) (search : Search) : List Way :=
  match way.rest with
  | [] => []
  | c :: cs => search.waiting.reverse.flatMap (·.ways ⟨some c, cs, way.offset + 1, way.slots⟩)

/-- What a search at the place of `way` comes to, the preferred one first. -/
def ways (way : Way) (search : Search) : List Way :=
  search.waitingWays way ++ (search.accepted.map way.holding).toList

/-- Only steady ways wait, and if the search comes to nothing, then neither does a stack of lower
weight than `limit` that it has gone into. -/
structure Sound (way : Way) (limit : Nat) (search : Search) : Prop where
  steady : ∀ thread ∈ search.waiting, Steady thread.rest
  closed : ∀ rest ∈ search.entered, weight rest < limit → search.ways way = [] →
    restWays rest way = []

theorem head?_ways_append {way : Way} {search : Search} (haccepted : search.accepted.isSome)
    (more : List Way) : (search.ways way ++ more).head? = (search.ways way).head? := by
  obtain ⟨slots, hslots⟩ := Option.isSome_iff_exists.1 haccepted
  simp [ways, hslots, List.append_assoc]

/-- The search has gone on to `after`, which comes to what `search` and then `more` come to. -/
structure Extends (way : Way) (limit : Nat) (search : Search) (more : List Way) (after : Search) :
    Prop where
  sound : after.Sound way limit
  head?_eq : (after.ways way).head? = (search.ways way ++ more).head?
  entered : ∀ rest ∈ after.entered, rest ∈ search.entered ∨ weight rest < limit

namespace Extends

variable {way : Way} {limit : Nat} {search middle after : Search} {more others : List Way}

/-- What comes to `more` besides, without going into a stack. -/
theorem of_ways (hsound : search.Sound way limit) (hsteady : ∀ thread ∈ after.waiting,
    Steady thread.rest) (hentered : after.entered = search.entered)
    (hways : after.ways way = search.ways way ++ more) : search.Extends way limit more after where
  sound := by
    refine ⟨hsteady, ?_⟩
    intro rest hrest hlt hnil
    rw [hways, List.append_eq_nil_iff] at hnil
    exact hsound.closed rest (hentered ▸ hrest) hlt hnil.1
  head?_eq := congrArg List.head? hways
  entered := fun _ hrest ↦ .inl (hentered ▸ hrest)

theorem refl (hsound : search.Sound way limit) : search.Extends way limit [] search :=
  .of_ways hsound hsound.steady rfl (List.append_nil _).symm

theorem of_accepted (hsound : search.Sound way limit) (haccepted : search.accepted.isSome)
    (more : List Way) : search.Extends way limit more search where
  sound := hsound
  head?_eq := (head?_ways_append haccepted more).symm
  entered := fun _ hrest ↦ .inl hrest

theorem nil_of_nil (hextends : search.Extends way limit more after) (hnil : after.ways way = []) :
    search.ways way = [] ∧ more = [] := by
  have hhead := hextends.head?_eq
  rw [hnil, List.head?_nil, eq_comm, List.head?_eq_none_iff] at hhead
  exact List.append_eq_nil_iff.1 hhead

theorem trans (hmore : search.Extends way limit more middle)
    (hothers : middle.Extends way limit others after) :
    search.Extends way limit (more ++ others) after where
  sound := hothers.sound
  head?_eq := by
    rw [hothers.head?_eq, ← List.append_assoc]
    exact head?_append_congr hmore.head?_eq others
  entered := by
    intro rest hrest
    rcases hothers.entered rest hrest with hmiddle | hlt
    · exact hmore.entered rest hmiddle
    · exact .inr hlt

theorem mono {higher : Nat} (hextends : search.Extends way limit more after)
    (hsound : search.Sound way higher) (hle : limit ≤ higher) :
    search.Extends way higher more after where
  sound := by
    refine ⟨hextends.sound.steady, ?_⟩
    intro rest hrest hlt hnil
    rcases hextends.entered rest hrest with hold | hnew
    · exact hsound.closed rest hold hlt (hextends.nil_of_nil hnil).1
    · exact hextends.sound.closed rest hrest hnew hnil
  head?_eq := hextends.head?_eq
  entered := by
    intro rest hrest
    exact (hextends.entered rest hrest).imp_right (Nat.lt_of_lt_of_le · hle)

end Extends

theorem Sound.anti {way : Way} {limit higher : Nat} {search : Search}
    (hsound : search.Sound way higher) (hle : limit ≤ higher) : search.Sound way limit where
  steady := hsound.steady
  closed := fun rest hrest hlt ↦ hsound.closed rest hrest (Nat.lt_of_lt_of_le hlt hle)

end Search

/-- From a sound search the move comes to what `f` leads to, and it goes into stacks of lower weight
than `limit` only. -/
def Follows (way : Way) (limit : Nat) (move : Move) (f : Way → List Way) : Prop :=
  ∀ (slots : Slots) (search : Search), search.Sound way limit →
    search.Extends way limit (f (way.holding slots)) (move slots search)

section restWays

variable {r s : Regex} {rest : Rest}

theorem restWays_seq :
    restWays (.run (.seq r s) :: rest) = restWays (.run r :: .run s :: rest) := by
  funext way
  simp only [restWays, Regex.ways, List.flatMap_assoc]

theorem restWays_alt : restWays (.run (.alt r s) :: rest) =
    fun way ↦ restWays (.run r :: rest) way ++ restWays (.run s :: rest) way := by
  funext way
  simp only [restWays, Regex.ways, List.flatMap_append]

theorem restWays_group {i : Nat} : restWays (.run (.group i r) :: rest) =
    fun way ↦ restWays (.run r :: .close i :: rest) (way.mark (2 * i - 2)) := by
  funext way
  simp only [restWays, Regex.ways, List.flatMap_map]

theorem flatMap_prefer (greedy : Bool) (more : List Way) (way : Way) (f : Way → List Way) :
    (Regex.prefer greedy more way).flatMap f =
      if greedy then more.flatMap f ++ f way else f way ++ more.flatMap f := by
  cases greedy <;> simp [Regex.prefer]

theorem restWays_opt {greedy : Bool} : restWays (.run (.opt greedy r) :: rest) = fun way ↦
    if greedy then restWays (.run r :: rest) way ++ restWays rest way
    else restWays rest way ++ restWays (.run r :: rest) way := by
  funext way
  simp only [restWays, Regex.ways, flatMap_prefer]

theorem restWays_star {greedy : Bool} (hconsumes : r.consumes) :
    restWays (.run (.star greedy r) :: rest) = fun way ↦
      if greedy then restWays (.run r :: .run (.star greedy r) :: rest) way ++ restWays rest way
      else restWays rest way ++ restWays (.run r :: .run (.star greedy r) :: rest) way := by
  funext way
  simp only [restWays, Regex.ways_star hconsumes way, flatMap_prefer, List.flatMap_assoc]

theorem restWays_plus {greedy : Bool} : restWays (.run (.plus greedy r) :: rest) =
    restWays (.run r :: .run (.star greedy r) :: rest) := by
  funext way
  simp only [restWays, Regex.ways_plus, List.flatMap_assoc]

end restWays

namespace Follows

variable {way : Way} {limit : Nat} {move next : Move} {f : Way → List Way}

theorem mono {higher : Nat} (hmove : Follows way limit move f) (hle : limit ≤ higher) :
    Follows way higher move f := by
  intro slots search hsound
  exact (hmove slots search (hsound.anti hle)).mono hsound hle

theorem accept (way : Way) (limit : Nat) : Follows way limit accept (restWays []) := by
  intro slots search hsound
  unfold Matcher.accept
  split
  · next haccepted => exact .of_accepted hsound haccepted _
  · next haccepted =>
    have hnone : search.accepted = none := by simpa using haccepted
    refine .of_ways hsound hsound.steady rfl ?_
    simp [Search.ways, Search.waitingWays, hnone, restWays]

theorem take (way : Way) (limit : Nat) (s : CharSet) {rest : Rest} (hrest : Steady rest) :
    Follows way limit (way.place.take s rest) (restWays (.run (.chars s) :: rest)) := by
  intro slots search hsound
  cases haccepted : search.accepted with
  | some found =>
    have htake : way.place.take s rest slots search = search := by simp [Place.take, haccepted]
    rw [htake]
    exact .of_accepted hsound (by simp [haccepted]) _
  | none =>
    obtain ⟨before, text, offset, kept⟩ := way
    cases text with
    | nil =>
      simpa [Place.take, Way.place, Way.holding, restWays, Regex.ways, Way.take]
        using Search.Extends.refl hsound
    | cons c cs =>
      by_cases hc : s.contains c
      · have htake : Place.take (Way.place ⟨before, c :: cs, offset, kept⟩) s rest slots search =
            { search with waiting := ⟨rest, slots⟩ :: search.waiting } := by
          simp [Place.take, Way.place, hc, haccepted]
        rw [htake]
        refine .of_ways hsound (List.forall_mem_cons.2 ⟨hrest, hsound.steady⟩) rfl ?_
        simp [Search.ways, Search.waitingWays, Thread.ways, Way.holding, haccepted, restWays,
          Regex.ways, Way.take, hc]
      · simpa [Place.take, Way.place, Way.holding, restWays, Regex.ways, Way.take, hc]
          using Search.Extends.refl hsound

/-- A stack that the search has gone into before has nothing to add. -/
theorem once {rest : Rest} (hmove : Follows way (weight rest) move (restWays rest))
    (hlt : weight rest < limit) : Follows way limit (once rest move) (restWays rest) := by
  intro slots search hsound
  unfold Matcher.once
  split
  · next hskip =>
    rcases (Bool.or_eq_true_iff ..).1 hskip with haccepted | hentered
    · exact .of_accepted hsound haccepted _
    · have hmem : rest ∈ search.entered := by simpa using hentered
      refine ⟨hsound, ?_, fun rest hrest ↦ .inl hrest⟩
      cases hways : search.ways way with
      | nil =>
        have hnil := hsound.closed rest hmem hlt hways
        rw [restWays_holding_eq_nil.2 hnil, List.append_nil]
      | cons first others => rfl
  · -- while the move goes on, the stack that it goes into has not come to anything yet
    have hinto : ({ search with entered := rest :: search.entered } : Search).Sound way
        (weight rest) := by
      refine ⟨hsound.steady, List.forall_mem_cons.2 ⟨?_, ?_⟩⟩
      · intro hweight
        exact absurd hweight (Nat.lt_irrefl _)
      · exact (hsound.anti (Nat.le_of_lt hlt)).closed
    have hextends := hmove slots _ hinto
    have hentered (other : Rest) (hother : other ∈
        (move slots { search with entered := rest :: search.entered }).entered) :
        other = rest ∨ other ∈ search.entered ∨ weight other < weight rest := by
      simpa [or_assoc] using hextends.entered other hother
    refine ⟨⟨hextends.sound.steady, ?_⟩, hextends.head?_eq, ?_⟩
    · intro other hother hweight hnil
      have hboth := hextends.nil_of_nil hnil
      rcases hentered other hother with rfl | hold | hnew
      · exact restWays_holding_eq_nil.1 hboth.2
      · exact hsound.closed other hold hweight hboth.1
      · exact hextends.sound.closed other hother hnew hnil
    · intro other hother
      rcases hentered other hother with rfl | hold | hnew
      · exact .inr hlt
      · exact .inl hold
      · exact .inr (Nat.lt_trans hnew hlt)

/-- One move after the other. -/
theorem both {first second : Move} {g : Way → List Way} (hfirst : Follows way limit first f)
    (hsecond : Follows way limit second g) :
    Follows way limit (fun slots search ↦ second slots (first slots search))
      (fun way ↦ f way ++ g way) := by
  intro slots search hsound
  have hmiddle := hfirst slots search hsound
  exact hmiddle.trans (hsecond slots _ hmiddle.sound)

/-- What an expression that consumes text goes on with is not reached at the same place. -/
theorem explore {r : Regex} (hsteady : r.isSteady) {rest : Rest} (hrest : Steady rest)
    {next : Move} (hnext : ¬ r.consumes → Follows way (weight rest + 1) next (restWays rest)) :
    Follows way (weight (.run r :: rest)) (explore way.place r rest next)
      (restWays (.run r :: rest)) := by
  induction r generalizing rest next with
  | empty =>
    have hempty : ¬ Regex.empty.consumes := by simp [Regex.consumes]
    have hmove := (hnext hempty).mono (lt_weight hempty)
    intro slots search hsound
    simpa [Matcher.explore, restWays, Regex.ways] using hmove slots search hsound
  | chars s => exact take way _ s hrest
  | look l =>
    have hempty : ¬ (Regex.look l).consumes := by simp [Regex.consumes]
    have hmove := (hnext hempty).mono (lt_weight hempty)
    intro slots search hsound
    by_cases hholds : l.holds way.before way.rest.head?
    · simpa [Matcher.explore, restWays, Regex.ways, Way.place, Way.holding, hholds]
        using hmove slots search hsound
    · simpa [Matcher.explore, restWays, Regex.ways, Way.place, Way.holding, hholds]
        using Search.Extends.refl hsound
  | seq r s ihr ihs =>
    simp only [Regex.isSteady, Bool.and_eq_true] at hsteady
    have hsecond : ¬ r.consumes → Follows way (weight (.run s :: rest) + 1)
        (Matcher.once (.run s :: rest) (Matcher.explore way.place s rest next))
        (restWays (.run s :: rest)) := by
      intro hr
      refine once (ihs hsteady.2 hrest ?_) (Nat.lt_succ_self _)
      intro hs
      exact hnext (by simp [Regex.consumes, hr, hs])
    have hmove := ihr hsteady.1 (steady_run_cons.2 ⟨hsteady.2, hrest⟩) hsecond
    rw [restWays_seq]
    exact hmove.mono weight_seq
  | alt r s ihr ihs =>
    simp only [Regex.isSteady, Bool.and_eq_true] at hsteady
    have hfirst := ihr hsteady.1 hrest fun hr ↦ hnext (by simp [Regex.consumes, hr])
    have hsecond := ihs hsteady.2 hrest fun hs ↦ hnext (by simp [Regex.consumes, hs])
    rw [restWays_alt]
    exact (hfirst.mono weight_alt.1).both (hsecond.mono weight_alt.2)
  | group i r ih =>
    have hclose : ¬ r.consumes → Follows way (weight (.close i :: rest) + 1)
        (fun slots ↦ next (slots.set (2 * i - 1) (some way.offset)))
        (restWays (.close i :: rest)) := by
      intro hr slots search hsound
      exact hnext hr (slots.set (2 * i - 1) (some way.offset)) search hsound
    have hmove := (ih hsteady (steady_close_cons.2 hrest) hclose).mono weight_group
    rw [restWays_group]
    intro slots search hsound
    exact hmove (slots.set (2 * i - 2) (some way.offset)) search hsound
  | opt greedy r ih =>
    have hskip := hnext (by simp [Regex.consumes])
    have hround := ih hsteady hrest fun _ ↦ hskip
    rw [restWays_opt]
    cases greedy with
    | false => exact (hskip.mono weight_opt.2).both (hround.mono weight_opt.1)
    | true => exact (hround.mono weight_opt.1).both (hskip.mono weight_opt.2)
  | star greedy r ih =>
    simp only [Regex.isSteady, Bool.and_eq_true] at hsteady
    have hskip := hnext (by simp [Regex.consumes])
    have hloop : Steady (.run (.star greedy r) :: rest) :=
      steady_run_cons.2 ⟨by simp [Regex.isSteady, hsteady], hrest⟩
    have hround : Follows way (weight (.run r :: .run (.star greedy r) :: rest))
        (Matcher.explore way.place r (.run (.star greedy r) :: rest) dead)
        (restWays (.run r :: .run (.star greedy r) :: rest)) :=
      ih hsteady.2 hloop fun hr ↦ absurd hsteady.1 hr
    rw [restWays_star hsteady.1]
    cases greedy with
    | false =>
      exact (hskip.mono (weight_star hsteady.1).2).both (hround.mono (weight_star hsteady.1).1)
    | true =>
      exact (hround.mono (weight_star hsteady.1).1).both (hskip.mono (weight_star hsteady.1).2)
  | plus greedy r ih =>
    simp only [Regex.isSteady, Bool.and_eq_true] at hsteady
    have hloop : Steady (.run (.star greedy r) :: rest) :=
      steady_run_cons.2 ⟨by simp [Regex.isSteady, hsteady], hrest⟩
    rw [restWays_plus]
    refine (ih hsteady.2 hloop ?_).mono (weight_plus hsteady.1)
    intro hr
    exact absurd hsteady.1 hr

/-- From a sound search, whatever it has gone into, a stack is followed to all its ways. -/
theorem enter (way : Way) {rest : Rest} (hrest : Steady rest) :
    Follows way (weight rest + 1) (enter way.place rest) (restWays rest) := by
  induction rest with
  | nil => exact accept way _
  | cons frame rest ih =>
    cases frame with
    | run r =>
      rw [steady_run_cons] at hrest
      exact once (explore hrest.1 hrest.2 fun _ ↦ ih hrest.2) (Nat.lt_succ_self _)
    | close i =>
      intro slots search hsound
      exact ih (steady_close_cons.1 hrest) (slots.set (2 * i - 1) (some way.offset)) search hsound

end Follows

/-- Threads that are followed one after the other come to what each of them comes to. -/
theorem visit_ways (way : Way) {threads : List Thread}
    (hthreads : ∀ thread ∈ threads, Steady thread.rest) :
    (∀ thread ∈ (visit way.place threads).waiting, Steady thread.rest) ∧
      ((visit way.place threads).ways way).head? = (threads.flatMap (·.ways way)).head? := by
  have hfold (search : Search) (hsearch : ∀ limit, search.Sound way limit) :
      (∀ limit, (threads.foldl (fun search thread ↦ enter way.place thread.rest thread.slots search)
          search).Sound way limit) ∧
        ((threads.foldl (fun search thread ↦ enter way.place thread.rest thread.slots search)
          search).ways way).head? = (search.ways way ++ threads.flatMap (·.ways way)).head? := by
    induction threads generalizing search with
    | nil => exact ⟨hsearch, by simp⟩
    | cons thread threads ih =>
      rw [List.forall_mem_cons] at hthreads
      have hextends (limit : Nat) := (Follows.enter way hthreads.1).mono
        (Nat.le_max_right limit _) thread.slots search (hsearch _)
      have hafter (limit : Nat) := (hextends limit).sound.anti (Nat.le_max_left limit _)
      obtain ⟨hsound, hhead⟩ := ih hthreads.2 _ hafter
      refine ⟨hsound, hhead.trans ?_⟩
      rw [List.flatMap_cons, ← List.append_assoc]
      exact head?_append_congr (hextends 0).head?_eq _
  obtain ⟨hsound, hhead⟩ := hfold {} fun limit ↦ ⟨by simp, by simp⟩
  have hempty : ({} : Search).ways way = [] := by
    cases hrest : way.rest <;> simp [Search.ways, Search.waitingWays, hrest]
  rw [hempty, List.nil_append] at hhead
  exact ⟨(hsound 0).steady, hhead⟩

theorem run_nil (before : Option Char) (offset : Nat) (best : Option (Nat × Slots))
    (text : List Char) : run before offset [] best text = best := by
  cases text <;> rfl

/-- That a run stops early when nothing is waiting makes no difference. -/
theorem run_cons (before : Option Char) (offset : Nat) (threads : List Thread)
    (best : Option (Nat × Slots)) (c : Char) (text : List Char) :
    run before offset threads best (c :: text) =
      run (some c) (offset + 1) (visit ⟨before, some c, offset⟩ threads).waiting.reverse
        (((visit ⟨before, some c, offset⟩ threads).accepted.map
          fun slots ↦ (offset, slots)).or best)
        text := by
  rw [run]
  split
  · next hempty => rw [List.isEmpty_iff.1 hempty, List.reverse_nil, run_nil]
  · rfl

/-- Through the text, threads come to the first of the ways they have, and without one to what was
found before. -/
theorem run_eq (before : Option Char) (offset : Nat) {threads : List Thread}
    (hthreads : ∀ thread ∈ threads, Steady thread.rest) (best : Option (Nat × Slots))
    (text : List Char) (slots : Slots) :
    run before offset threads best text =
      ((threads.flatMap (·.ways ⟨before, text, offset, slots⟩)).head?.map
        fun way ↦ (way.offset, way.slots)).or best := by
  induction text generalizing before offset threads best with
  | nil =>
    have hvisit := visit_ways ⟨before, [], offset, slots⟩ hthreads
    rw [← hvisit.2]
    cases haccepted : (visit ⟨before, none, offset⟩ threads).accepted <;>
      simp [run, Search.ways, Search.waitingWays, Way.place, Way.holding, haccepted]
  | cons c text ih =>
    have hvisit := visit_ways ⟨before, c :: text, offset, slots⟩ hthreads
    have hplace : Way.place ⟨before, c :: text, offset, slots⟩ = ⟨before, some c, offset⟩ := rfl
    rw [hplace] at hvisit
    rw [← hvisit.2, run_cons]
    generalize visit ⟨before, some c, offset⟩ threads = search at hvisit ⊢
    have hwaiting : ∀ thread ∈ search.waiting.reverse, Steady thread.rest := by
      simpa using hvisit.1
    have haccepted : (search.accepted.map fun slots ↦ (offset, slots)) =
        (search.accepted.map (Way.holding ⟨before, c :: text, offset, slots⟩)).map
          fun way ↦ (way.offset, way.slots) := by
      simp [Way.holding, Function.comp_def]
    rw [ih _ _ hwaiting, haccepted, ← Option.or_assoc, ← Option.map_or, Search.ways,
      List.head?_append]
    simp [Search.waitingWays]

end Matcher

/-- A match is the preferred way through the expression. -/
theorem Regex.match?_eq {r : Regex} (hsteady : r.isSteady) (before : Option Char)
    (text : List Char) : r.match? before text =
      (r.ways ⟨before, text, 0, List.replicate (2 * r.lastGroup) none⟩).head?.map
        fun way ↦ ⟨way.offset, way.slots⟩ := by
  have hthread : Steady [.run r] := by simpa [Steady] using hsteady
  rw [match?, run_eq before 0 (List.forall_mem_singleton.2 hthread) none text []]
  simp [Thread.ways, Way.holding, restWays, Function.comp_def]

end LexTable
