import LexTable.Proofs.Lexer.Tiling
import LexTable.Proofs.Table.Inlining
import Mathlib

/-!
# The stack of states

What a run does to the states that were entered is a list of events, one for each match. The same
events move a stack of places, numbers of states in the order of the table, from which a pop takes
nothing once a single place is left. The two stacks stay aligned, so the stack of places ends in
the initial state and names a state at each place. Events in which every pop has its push give the
stack back as it was.
-/

namespace LexTable

open RuleTable Lexer

/-- What a match was: a rule was applied, or there was none for a newline or another character. -/
inductive Event where
  | applied (rule : Lexer.Rule)
  | newline
  | other

namespace Event

/-- The states above the initial one after the event. -/
def move (pushed : List String) : Event → List String
  | applied rule => Transition.apply rule.next pushed
  | newline => []
  | other => pushed

/-- How many entered states are open after the event if `depth` were open before it. There is no
number after a newline, and none after a pop for which no state is open. -/
def depthAfter? (depth : Nat) : Event → Option Nat
  | newline => none
  | other => some depth
  | applied rule =>
    match rule.next with
    | none => some depth
    | some (.push _) => some (depth + 1)
    | some .pop => if depth = 0 then none else some (depth - 1)

/-- No newline, every pop leaves a state that was pushed before it, and every pushed state is
left. -/
def Balanced (events : List Event) : Prop :=
  events.foldlM depthAfter? 0 = some 0

instance (events : List Event) : Decidable (Balanced events) :=
  inferInstanceAs (Decidable (_ = _))

instance (event : Event) : Decidable (∃ rule, event = .applied rule) :=
  match event with
  | applied rule => isTrue ⟨rule, rfl⟩
  | newline | other => isFalse (by simp)

/-- An event does not touch the states below the open ones. -/
theorem move_append {event : Event} {above : List String} {depth : Nat}
    (hdepth : event.depthAfter? above.length = some depth) (below : List String) :
    ∃ left : List String, left.length = depth ∧ event.move (above ++ below) = left ++ below := by
  cases event with
  | newline => cases hdepth
  | other => exact ⟨above, Option.some.inj hdepth, rfl⟩
  | applied rule =>
    dsimp only [depthAfter?, move] at hdepth ⊢
    cases hnext : rule.next with
    | none =>
      rw [hnext] at hdepth
      exact ⟨above, Option.some.inj hdepth, rfl⟩
    | some transition =>
      rw [hnext] at hdepth
      cases transition with
      | push state => exact ⟨state :: above, Option.some.inj hdepth, rfl⟩
      | pop =>
        cases above with
        | nil => cases hdepth
        | cons top above => exact ⟨above, Option.some.inj hdepth, rfl⟩

theorem foldl_move_append {events : List Event} {above : List String} {depth : Nat}
    (hdepth : events.foldlM depthAfter? above.length = some depth) (below : List String) :
    ∃ left : List String, left.length = depth ∧
      events.foldl move (above ++ below) = left ++ below := by
  induction events generalizing above with
  | nil => exact ⟨above, Option.some.inj hdepth, rfl⟩
  | cons event events ih =>
    rw [List.foldlM_cons] at hdepth
    obtain ⟨middle, hevent, hevents⟩ := Option.bind_eq_some_iff.1 hdepth
    obtain ⟨left, rfl, hleft⟩ := move_append hevent below
    rw [List.foldl_cons, hleft]
    exact ih hevents

/-- The bracket law: balanced events give the stack back. -/
theorem Balanced.foldl_move {events : List Event} (hevents : Balanced events)
    (pushed : List String) : events.foldl move pushed = pushed := by
  have hnone : events.foldlM depthAfter? ([] : List String).length = some 0 := hevents
  obtain ⟨left, hleft, hmove⟩ := foldl_move_append hnone pushed
  rw [List.nil_append, List.length_eq_zero_iff.1 hleft, List.nil_append] at hmove
  exact hmove

end Event

namespace Cursor

/-- What the next step from the cursor is. -/
def event (lexer : Lexer) (cursor : Cursor) : Event :=
  match firstMatch? cursor.before cursor.rest (lexer.rulesOf (cursor.state lexer)) with
  | some (rule, _) => .applied rule
  | none => if cursor.rest.head? = some '\n' then .newline else .other

/-- What happens in a pull: nothing while tokens are waiting, and nothing at the end. -/
def pullEvents (lexer : Lexer) (cursor : Cursor) : List Event :=
  if cursor.pending.isEmpty && !cursor.rest.isEmpty then [cursor.event lexer] else []

/-- What happens in the next `count` pulls. -/
def events (lexer : Lexer) : Nat → Cursor → List Event
  | 0, _ => []
  | count + 1, cursor => cursor.pullEvents lexer ++ events lexer count (cursor.pull lexer).2

theorem step_pushed (lexer : Lexer) (cursor : Cursor) :
    (cursor.step lexer).pushed = (cursor.event lexer).move cursor.pushed := by
  unfold step event
  cases firstMatch? cursor.before cursor.rest (lexer.rulesOf (cursor.state lexer)) with
  | some found => rfl
  | none =>
    dsimp only
    split <;> rfl

theorem pull_pushed (lexer : Lexer) (cursor : Cursor) :
    (cursor.pull lexer).2.pushed = (cursor.pullEvents lexer).foldl Event.move cursor.pushed := by
  unfold pull fill pullEvents
  split
  · exact step_pushed lexer cursor
  · rfl

theorem after_pushed (lexer : Lexer) (count : Nat) (cursor : Cursor) :
    (cursor.after lexer count).pushed =
      (cursor.events lexer count).foldl Event.move cursor.pushed := by
  induction count generalizing cursor with
  | zero => rfl
  | succ count ih =>
    calc
      _ = (Cursor.events lexer count (cursor.pull lexer).2).foldl Event.move
          (cursor.pull lexer).2.pushed := ih _
      _ = _ := by rw [pull_pushed, events, List.foldl_append]

theorem events_add (lexer : Lexer) (count more : Nat) (cursor : Cursor) :
    cursor.events lexer (count + more) =
      cursor.events lexer count ++ (cursor.after lexer count).events lexer more := by
  induction count generalizing cursor with
  | zero => rw [Nat.zero_add, events, List.nil_append, after]
  | succ count ih => rw [Nat.add_right_comm, events, ih, events, List.append_assoc, after]

end Cursor

namespace Lexer

/-- The number of the state, which is the number of states if no state has the name. -/
def placeOf (lexer : Lexer) (name : String) : Nat :=
  (lexer.states.map (·.name)).idxOf name

theorem exists_getElem?_placeOf {lexer : Lexer} {name : String}
    (hname : name ∈ lexer.states.map (·.name)) :
    ∃ state, lexer.states[lexer.placeOf name]? = some state ∧ state.name = name := by
  have hget := List.getElem?_idxOf hname
  rw [List.getElem?_map, Option.map_eq_some_iff] at hget
  exact hget

/-- The stack of places after an event. The last place is not taken away by a pop. -/
def movePlaces (lexer : Lexer) (places : List Nat) : Event → List Nat
  | .applied rule =>
    match rule.next with
    | none => places
    | some (.push state) => lexer.placeOf state :: places
    | some .pop => if 1 < places.length then places.tail else places
  | .newline => [lexer.placeOf lexer.initial]
  | .other => places

/-- The stack of places after the events of a run from the start of a text. -/
def places (lexer : Lexer) (events : List Event) : List Nat :=
  events.foldl lexer.movePlaces [lexer.placeOf lexer.initial]

/-- Room for the groups of the rules, state by state. -/
def slotTable (lexer : Lexer) : List (List (Option Slots)) :=
  lexer.states.map fun state ↦ state.rules.map fun _ ↦ none

/-- Every state that is entered is a state of the lexer. -/
structure Closed (lexer : Lexer) : Prop where
  initial_mem : lexer.initial ∈ lexer.states.map (·.name)
  push_mem : ∀ state ∈ lexer.states, ∀ rule ∈ state.rules, ∀ target,
    rule.next = some (.push target) → target ∈ lexer.states.map (·.name)

theorem mem_of_firstMatch? {before : Option Char} {rest : List Char} {rules : List Rule}
    {rule : Rule} {m : Match} (hfirst : firstMatch? before rest rules = some (rule, m)) :
    rule ∈ rules := by
  induction rules with
  | nil => cases hfirst
  | cons other rules ih =>
    unfold firstMatch? at hfirst
    split at hfirst
    · split at hfirst
      · exact List.mem_cons_of_mem _ (ih hfirst)
      · cases hfirst
        exact List.mem_cons_self ..
    · exact List.mem_cons_of_mem _ (ih hfirst)

theorem exists_state_of_mem_rulesOf {lexer : Lexer} {name : String} {rule : Rule}
    (hrule : rule ∈ lexer.rulesOf name) : ∃ state ∈ lexer.states, rule ∈ state.rules := by
  unfold rulesOf at hrule
  cases hfind : lexer.find? name with
  | none =>
    rw [hfind] at hrule
    cases hrule
  | some state =>
    rw [hfind] at hrule
    exact ⟨state, List.mem_of_find?_eq_some hfind, hrule⟩

/-- The stacks show the same states, and each of them is a state of the lexer. -/
structure Aligned (lexer : Lexer) (places : List Nat) (pushed : List String) : Prop where
  places_eq : places = (pushed ++ [lexer.initial]).map lexer.placeOf
  names_mem : ∀ name ∈ pushed ++ [lexer.initial], name ∈ lexer.states.map (·.name)

namespace Closed

variable {lexer : Lexer}

theorem aligned_initial (hlexer : lexer.Closed) :
    lexer.Aligned [lexer.placeOf lexer.initial] [] where
  places_eq := rfl
  names_mem := by simpa using hlexer.initial_mem

/-- A step keeps the stacks aligned. -/
theorem aligned_step (hlexer : lexer.Closed) {places : List Nat} {cursor : Cursor}
    (haligned : lexer.Aligned places cursor.pushed) :
    lexer.Aligned (lexer.movePlaces places (cursor.event lexer))
      ((cursor.event lexer).move cursor.pushed) := by
  unfold Cursor.event
  split
  · next rule m hfirst =>
    obtain ⟨state, hstate, hrule⟩ := exists_state_of_mem_rulesOf (mem_of_firstMatch? hfirst)
    dsimp only [movePlaces, Event.move]
    cases hnext : rule.next with
    | none => exact haligned
    | some transition =>
      cases transition with
      | push target =>
        have htarget := hlexer.push_mem state hstate rule hrule target hnext
        refine ⟨congrArg (lexer.placeOf target :: ·) haligned.places_eq, ?_⟩
        exact List.forall_mem_cons.2 ⟨htarget, haligned.names_mem⟩
      | pop =>
        have hplaces := haligned.places_eq
        have hnames := haligned.names_mem
        cases hpushed : cursor.pushed with
        | nil =>
          rw [hpushed] at hplaces
          rw [hplaces]
          exact hlexer.aligned_initial
        | cons top below =>
          rw [hpushed] at hplaces hnames
          have hlength : 1 < places.length := by simp [hplaces]
          dsimp only
          rw [if_pos hlength, hplaces]
          exact ⟨rfl, (List.forall_mem_cons.1 hnames).2⟩
  · split
    · exact hlexer.aligned_initial
    · exact haligned

theorem aligned_pull (hlexer : lexer.Closed) {places : List Nat} {cursor : Cursor}
    (haligned : lexer.Aligned places cursor.pushed) :
    lexer.Aligned ((cursor.pullEvents lexer).foldl lexer.movePlaces places)
      (cursor.pull lexer).2.pushed := by
  rw [Cursor.pull_pushed]
  unfold Cursor.pullEvents
  split
  · exact hlexer.aligned_step haligned
  · exact haligned

theorem aligned_after (hlexer : lexer.Closed) {places : List Nat} {cursor : Cursor}
    (haligned : lexer.Aligned places cursor.pushed) (count : Nat) :
    lexer.Aligned ((cursor.events lexer count).foldl lexer.movePlaces places)
      (cursor.after lexer count).pushed := by
  induction count generalizing places cursor with
  | zero => exact haligned
  | succ count ih =>
    rw [Cursor.events, List.foldl_append]
    exact ih (hlexer.aligned_pull haligned)

end Closed

namespace Aligned

variable {lexer : Lexer} {places : List Nat} {pushed : List String}

theorem ne_nil (haligned : lexer.Aligned places pushed) : places ≠ [] := by
  simp [haligned.places_eq]

theorem getLast?_eq (haligned : lexer.Aligned places pushed) :
    places.getLast? = some (lexer.placeOf lexer.initial) := by
  simp [haligned.places_eq]

theorem lt_length (haligned : lexer.Aligned places pushed) :
    ∀ place ∈ places, place < lexer.states.length := by
  rw [haligned.places_eq, List.forall_mem_map]
  intro name hname
  have hlt := List.idxOf_lt_length_of_mem (haligned.names_mem name hname)
  rwa [List.length_map] at hlt

theorem map_name (haligned : lexer.Aligned places pushed) :
    places.map (fun place ↦ (lexer.states[place]?).map (·.name)) =
      (pushed ++ [lexer.initial]).map some := by
  rw [haligned.places_eq, List.map_map]
  apply List.map_congr_left
  intro name hname
  have hget := List.getElem?_idxOf (haligned.names_mem name hname)
  rwa [List.getElem?_map] at hget

end Aligned

end Lexer

namespace RuleTable

theorem closed_of_build {table : RuleTable} {initial : String} {reader : PatternReader}
    {lexer : Lexer} (hbuild : build table initial reader = .ok lexer) : lexer.Closed := by
  obtain ⟨-, hinitial, hcompiles, hlexer⟩ := build_eq_ok_iff_compiles.1 hbuild
  have hnames := names_of_compiles hcompiles
  refine ⟨?_, ?_⟩
  · rw [hnames, hlexer]
    exact hinitial
  · intro state hstate rule hrule target hnext
    obtain ⟨source, hready⟩ := exists_reads_of_build hbuild hstate hrule
    rw [hnames]
    exact hready.push_mem target (hready.next_eq ▸ hnext)

/-- The state at a place is the one that the table describes at this place. -/
theorem exists_place_of_build {table : RuleTable} {initial : String} {reader : PatternReader}
    {lexer : Lexer} (hbuild : build table initial reader = .ok lexer) {name : String}
    (hname : name ∈ lexer.states.map (·.name)) :
    ∃ entry state, table[lexer.placeOf name]? = some entry ∧
      lexer.states[lexer.placeOf name]? = some state ∧ table.Compiles reader entry state ∧
      state.name = name ∧ state.rules = lexer.rulesOf name := by
  have hcompiles := build_compiles hbuild
  obtain ⟨state, hstate, rfl⟩ := exists_getElem?_placeOf hname
  obtain ⟨hlt, hplace⟩ := List.getElem?_eq_some_iff.1 hstate
  have hlength := hcompiles.length_eq
  have hentry := hcompiles.get (hlength ▸ hlt) hlt
  obtain ⟨other, hfind, hother⟩ := exists_find?_of_build hbuild (List.get_mem _ _)
  obtain rfl : other = state := by
    rw [← hplace]
    exact Compiles.rightUnique table reader hother hentry
  refine ⟨_, other, List.getElem?_eq_getElem (hlength ▸ hlt), hstate, hother, rfl, ?_⟩
  rw [rulesOf, hother.name_eq]
  exact (congrArg (·.elim [] (·.rules)) hfind).symm

/-- What a stack of places in a lexer shows: the initial state at the bottom, a state at every
place, the states that the cursor has entered, and on top the state whose rules it tries, with
room for the groups of each of these rules. -/
structure Shows (table : RuleTable) (initial : String) (reader : PatternReader) (lexer : Lexer)
    (places : List Nat) (cursor : Cursor) : Prop where
  ne_nil : places ≠ []
  bottom : places.getLast? = some (table.names.idxOf initial)
  in_bounds : ∀ place ∈ places, place < lexer.states.length
  names_eq : places.map (fun place ↦ (lexer.states[place]?).map (·.name)) =
    (cursor.pushed ++ [initial]).map some
  current : ∃ place entry state, places.head? = some place ∧ table[place]? = some entry ∧
    lexer.states[place]? = some state ∧ table.Compiles reader entry state ∧
    state.name = cursor.state lexer ∧ state.rules = lexer.rulesOf (cursor.state lexer) ∧
    (lexer.slotTable[place]?).map (·.length) = some state.rules.length

theorem shows_of_aligned {table : RuleTable} {initial : String} {reader : PatternReader}
    {lexer : Lexer} (hbuild : build table initial reader = .ok lexer) {places : List Nat}
    {cursor : Cursor} (haligned : lexer.Aligned places cursor.pushed) :
    table.Shows initial reader lexer places cursor := by
  obtain ⟨-, -, -, hlexer⟩ := build_eq_ok_iff_compiles.1 hbuild
  have hinitial : lexer.initial = initial := by rw [hlexer]
  have hstates := names_of_compiles (build_compiles hbuild)
  refine ⟨haligned.ne_nil, ?_, haligned.lt_length, hinitial ▸ haligned.map_name, ?_⟩
  · rw [haligned.getLast?_eq, placeOf, hstates, hinitial]
  · have hstack : ∃ below, cursor.pushed ++ [lexer.initial] = cursor.state lexer :: below := by
      unfold Cursor.state
      cases cursor.pushed with
      | nil => exact ⟨[], rfl⟩
      | cons top below => exact ⟨below ++ [lexer.initial], rfl⟩
    obtain ⟨below, hstack⟩ := hstack
    have hmem : cursor.state lexer ∈ lexer.states.map (·.name) := by
      apply haligned.names_mem
      simp [hstack]
    obtain ⟨entry, state, hentry, hstate, hready, hname, hrules⟩ :=
      exists_place_of_build hbuild hmem
    refine ⟨_, entry, state, ?_, hentry, hstate, hready, hname, hrules, ?_⟩
    · simp [haligned.places_eq, hstack]
    · simp [slotTable, hstate]

/-- The stack never gets empty or leaves the table. A pushed state is the current one, a pop leaves
the initial state where it is, a newline for which there is no rule takes the stack back to the
initial state, and balanced events give it back as it was. -/
theorem stack_discipline {table : RuleTable} {initial : String} {reader : PatternReader}
    {lexer : Lexer} (hbuild : build table initial reader = .ok lexer) (text : String)
    (count : Nat) :
    let cursor := (Cursor.start text).after lexer count
    let placesAfter := fun count ↦ lexer.places ((Cursor.start text).events lexer count)
    table.Shows initial reader lexer (placesAfter count) cursor ∧
      (∀ rule, cursor.pullEvents lexer = [.applied rule] →
        (∀ name, rule.next = some (.push name) → (cursor.pull lexer).2.state lexer = name) ∧
        (rule.next = some .pop → (placesAfter count).length = 1 →
          placesAfter (count + 1) = placesAfter count)) ∧
      (cursor.pullEvents lexer = [.newline] →
        placesAfter (count + 1) = [table.names.idxOf initial]) ∧
      ∀ more, Event.Balanced (cursor.events lexer more) →
        placesAfter (count + more) = placesAfter count := by
  intro cursor placesAfter
  have hclosed := closed_of_build hbuild
  have haligned (count : Nat) :
      lexer.Aligned (placesAfter count) ((Cursor.start text).after lexer count).pushed :=
    hclosed.aligned_after hclosed.aligned_initial count
  have hnext (event : Event) (hevent : cursor.pullEvents lexer = [event]) :
      placesAfter (count + 1) = lexer.movePlaces (placesAfter count) event := by
    have hone : cursor.events lexer 1 = [event] := by rw [Cursor.events, hevent]; rfl
    simp only [placesAfter, Cursor.events_add]
    rw [hone, places, List.foldl_append]
    rfl
  have hshows := shows_of_aligned hbuild (haligned count)
  refine ⟨hshows, ?_, ?_, ?_⟩
  · intro rule hrule
    refine ⟨?_, ?_⟩
    · intro name hpush
      rw [Cursor.state, Cursor.pull_pushed, hrule, List.foldl_cons, Event.move, hpush]
      rfl
    · intro hpop hlength
      rw [hnext _ hrule, movePlaces, hpop]
      simp [hlength]
  · intro hnewline
    have hbottom := hshows.bottom
    rw [(haligned count).getLast?_eq] at hbottom
    rw [hnext _ hnewline, movePlaces, Option.some.inj hbottom]
  · intro more hbalanced
    have hpushed : ((Cursor.start text).after lexer (count + more)).pushed = cursor.pushed := by
      rw [Cursor.after_pushed, Cursor.events_add, List.foldl_append, ← Cursor.after_pushed]
      exact hbalanced.foldl_move cursor.pushed
    rw [(haligned (count + more)).places_eq, (haligned count).places_eq, hpushed]

/-- Round brackets, which may be nested. -/
def brackets : RuleTable :=
  [⟨"outside", [.rule ⟨"\\(", .token .punctuation, some (.push "inside")⟩]⟩,
    ⟨"inside", [.splice "outside", .rule ⟨"\\)", .token .punctuation, some .pop⟩]⟩]

theorem stack_discipline_brackets : ∃ lexer, build brackets "outside" = .ok lexer ∧
    lexer.places ((Cursor.start "(()").events lexer 1) = [1, 0] ∧
    Event.Balanced (((Cursor.start "(()").after lexer 1).events lexer 2) ∧
    lexer.places ((Cursor.start "(()").events lexer (1 + 2)) = [1, 0] := by
  have hrun : (build brackets "outside").toOption.map (fun lexer ↦
      (lexer.places ((Cursor.start "(()").events lexer 1),
        decide (Event.Balanced (((Cursor.start "(()").after lexer 1).events lexer 2)))) =
      some ([1, 0], true) := by
    cbv
  cases hbuild : build brackets "outside" with
  | error error =>
    rw [hbuild] at hrun
    cases hrun
  | ok lexer =>
    rw [hbuild] at hrun
    obtain ⟨hplaces, hbalanced⟩ := Prod.mk.inj (Option.some.inj hrun)
    have hevents := of_decide_eq_true hbalanced
    obtain ⟨-, -, -, hlaw⟩ := stack_discipline hbuild "(()" 1
    exact ⟨lexer, rfl, hplaces, hevents, (hlaw 2 hevents).trans hplaces⟩

end RuleTable

end LexTable
