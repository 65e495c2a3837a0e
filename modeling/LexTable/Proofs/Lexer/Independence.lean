import LexTable.Proofs.Lexer.Agreement
import LexTable.Proofs.Lexer.Reuse

/-!
# Cursors know nothing of each other and of their past

Several cursors of one lexer may be pulled in any order: a pull touches no cursor but its own, so
each shows what it shows when it is alone. A cursor may keep the room in which it finds groups and
use it again; what it shows is what a cursor without that memory shows. So of a text only the place,
the entered states and the waiting tokens say what comes next.
-/

namespace LexTable

open Text (byteLength)

namespace Lexer

def Pull.shown (lexer : Lexer) (pull : Pull) : Showing :=
  ⟨pull.token, pull.after.position, pull.after.state lexer⟩

/-- The pulls of one cursor, picked out of a schedule. -/
theorem shown_filter_schedule (lexer : Lexer) {cursors : List Cursor} (steps : List Nat)
    {index : Nat} {cursor : Cursor} (hcursor : cursors[index]? = some cursor) :
    ((lexer.schedule cursors steps).filter (·.index = index)).map (Pull.shown lexer) =
      cursor.showings lexer (steps.count index) := by
  induction steps generalizing cursors cursor with
  | nil => rfl
  | cons step steps ih =>
    unfold schedule
    by_cases hstep : step = index
    · rw [hstep, hcursor, List.count_cons_self]
      have hset : (cursors.set index (cursor.pull lexer).2)[index]? =
          some (cursor.pull lexer).2 := by
        have hlt := (List.getElem?_eq_some_iff.1 hcursor).1
        exact List.getElem?_set_self hlt
      have hrest := ih hset
      simpa [Cursor.showings, Pull.shown] using hrest
    · rw [List.count_cons_of_ne hstep]
      cases hother : cursors[step]? with
      | none => exact ih hcursor
      | some other =>
        have hset : (cursors.set step (other.pull lexer).2)[index]? = some cursor := by
          rw [List.getElem?_set_ne hstep]
          exact hcursor
        have hrest := ih hset
        simpa [hstep] using hrest

end Lexer

namespace Cursor

/-- Consumes what a rule matches or, if no rule does, one character. -/
def consume (cursor : Cursor) : Option Lexer.Effect → Cursor
  | some found =>
    cursor.advance found.length found.pieces (Transition.apply found.next cursor.pushed)
  | none =>
    if cursor.rest.head? = some '\n' then cursor.advance 1 [(.whitespace, 1)] []
    else cursor.advance 1 [(.error, 1)] cursor.pushed

theorem step_eq_consume (lexer : Lexer) (cursor : Cursor) :
    cursor.step lexer = cursor.consume ((Lexer.firstMatch? cursor.before cursor.rest
      (lexer.rulesOf (cursor.state lexer))).map Lexer.effect) := by
  unfold step
  cases Lexer.firstMatch? cursor.before cursor.rest (lexer.rulesOf (cursor.state lexer)) with
  | none => rfl
  | some found => rfl

/-- The cursor is at a place in the text. -/
def In (text : String) (cursor : Cursor) : Prop :=
  ∃ done, text.toList = done ++ cursor.rest ∧ cursor.before = done.getLast? ∧
    cursor.position = byteLength done

namespace In

variable {text : String} {cursor other : Cursor}

theorem start (text : String) : (Cursor.start text).In text :=
  ⟨[], rfl, rfl, rfl⟩

theorem advance (hin : cursor.In text) (length : Nat) (pieces : List (Kind × Nat))
    (pushed : List String) : (cursor.advance length pieces pushed).In text := by
  obtain ⟨done, htext, hbefore, hposition⟩ := hin
  refine ⟨done ++ cursor.rest.take length, ?_, ?_, ?_⟩
  · rw [List.append_assoc, htext]
    exact congrArg (done ++ ·) (List.take_append_drop length cursor.rest).symm
  · rw [List.getLast?_append, ← hbefore]
    rfl
  · rw [Text.byteLength_append, ← hposition]
    rfl

theorem consume (hin : cursor.In text) (found : Option Lexer.Effect) :
    (cursor.consume found).In text := by
  unfold Cursor.consume
  split
  · exact hin.advance ..
  · split <;> exact hin.advance ..

theorem pull (hin : cursor.In text) (lexer : Lexer) : (cursor.pull lexer).2.In text := by
  have hfill : (cursor.fill lexer).In text := by
    unfold Cursor.fill
    split
    · rw [step_eq_consume]
      exact hin.consume _
    · exact hin
  exact hfill

theorem after (hin : cursor.In text) (lexer : Lexer) (count : Nat) :
    (cursor.after lexer count).In text := by
  induction count generalizing cursor with
  | zero => exact hin
  | succ count ih => exact ih (hin.pull lexer)

/-- The position is all that counts of the place in a text. -/
theorem eq_of_position_eq (hin : cursor.In text) (hother : other.In text)
    (hposition : cursor.position = other.position) (hpushed : cursor.pushed = other.pushed)
    (hpending : cursor.pending = other.pending) : cursor = other := by
  obtain ⟨before, rest, position, pushed, pending⟩ := cursor
  obtain ⟨before', rest', position', pushed', pending'⟩ := other
  obtain ⟨done, htext, rfl, hdone⟩ := hin
  obtain ⟨done', htext', rfl, hdone'⟩ := hother
  obtain ⟨rfl, rfl⟩ := Text.append_inj_of_byteLength_eq (htext.symm.trans htext')
    (hdone.symm.trans (hposition.trans hdone'))
  obtain rfl : position = position' := hposition
  obtain rfl : pushed = pushed' := hpushed
  obtain rfl : pending = pending' := hpending
  rfl

end In

end Cursor

/-- A cursor that keeps room for the groups of every rule, by the number of the state and that of
the rule. -/
structure ReusingCursor where
  cursor : Cursor
  rooms : List (List (Option Captures))
  deriving DecidableEq

namespace ReusingCursor

def start (lexer : Lexer) (text : String) : ReusingCursor where
  cursor := .start text
  rooms := lexer.states.map fun state ↦ state.rules.map fun _ ↦ none

/-- A step that searches in the rooms of the current state and leaves them as they are after it. -/
def step (lexer : Lexer) (reusing : ReusingCursor) : ReusingCursor :=
  let cursor := reusing.cursor
  let place := lexer.placeOf (cursor.state lexer)
  let (found, row) := Lexer.firstMatchIn cursor.before cursor.rest (lexer.rulesAt place)
    (reusing.rooms[place]?.getD [])
  ⟨cursor.consume (found.map Lexer.effect), reusing.rooms.set place row⟩

def fill (lexer : Lexer) (reusing : ReusingCursor) : ReusingCursor :=
  if reusing.cursor.pending.isEmpty && !reusing.cursor.rest.isEmpty then reusing.step lexer
  else reusing

/-- The next token, if there is one, and the cursor after it. -/
def pull (lexer : Lexer) (reusing : ReusingCursor) : Option Token × ReusingCursor :=
  let ⟨filled, rooms⟩ := reusing.fill lexer
  (filled.pending.head?, ⟨{ filled with pending := filled.pending.tail }, rooms⟩)

/-- The cursor after the given number of pulls. -/
def after (lexer : Lexer) : Nat → ReusingCursor → ReusingCursor
  | 0, reusing => reusing
  | count + 1, reusing => after lexer count (reusing.pull lexer).2

/-- What the next `count` pulls show. -/
def showings (lexer : Lexer) : Nat → ReusingCursor → List Showing
  | 0, _ => []
  | count + 1, reusing =>
    let (token?, after) := reusing.pull lexer
    ⟨token?, after.cursor.position, after.cursor.state lexer⟩ :: showings lexer count after

/-- Pulls from several cursors in the given order; numbers that no cursor has are passed over. -/
def schedule (lexer : Lexer) : List ReusingCursor → List Nat → List Lexer.Pull
  | _, [] => []
  | cursors, index :: steps =>
    match cursors[index]? with
    | none => schedule lexer cursors steps
    | some reusing =>
      let (token, after) := reusing.pull lexer
      ⟨index, token, after.cursor⟩ :: schedule lexer (cursors.set index after) steps

section

variable {lexer : Lexer} (hgroups : ∀ name, ∀ rule ∈ lexer.rulesOf name, rule.GroupsFit)

include hgroups

theorem step_spec {reusing : ReusingCursor} (hrooms : lexer.RoomsFit reusing.rooms) :
    (reusing.step lexer).cursor = reusing.cursor.step lexer ∧
      lexer.RoomsFit (reusing.step lexer).rooms := by
  have hrow := hrooms.row (lexer.placeOf (reusing.cursor.state lexer))
  have hrules := lexer.rulesAt_placeOf (reusing.cursor.state lexer)
  obtain ⟨heffect, hfit⟩ := Lexer.firstMatchIn_spec reusing.cursor.before reusing.cursor.rest
    (hrules ▸ hgroups _) hrow
  refine ⟨?_, hrooms.set hfit⟩
  rw [Cursor.step_eq_consume, ← hrules, ← heffect]
  rfl

/-- A pull gives the same token and leaves the same cursor, with room that fits again. -/
theorem pull_spec {reusing : ReusingCursor} (hrooms : lexer.RoomsFit reusing.rooms) :
    (reusing.pull lexer).1 = (reusing.cursor.pull lexer).1 ∧
      (reusing.pull lexer).2.cursor = (reusing.cursor.pull lexer).2 ∧
      lexer.RoomsFit (reusing.pull lexer).2.rooms := by
  have hfill : (reusing.fill lexer).cursor = reusing.cursor.fill lexer ∧
      lexer.RoomsFit (reusing.fill lexer).rooms := by
    unfold fill Cursor.fill
    split
    · exact step_spec hgroups hrooms
    · exact ⟨rfl, hrooms⟩
  obtain ⟨hcursor, hfit⟩ := hfill
  unfold pull Cursor.pull
  rw [← hcursor]
  exact ⟨rfl, rfl, hfit⟩

theorem after_spec {reusing : ReusingCursor} (hrooms : lexer.RoomsFit reusing.rooms)
    (count : Nat) : (reusing.after lexer count).cursor = reusing.cursor.after lexer count ∧
      lexer.RoomsFit (reusing.after lexer count).rooms := by
  induction count generalizing reusing with
  | zero => exact ⟨rfl, hrooms⟩
  | succ count ih =>
    obtain ⟨-, hcursor, hfit⟩ := pull_spec hgroups hrooms
    obtain ⟨hafter, hafterfit⟩ := ih hfit
    rw [hcursor] at hafter
    exact ⟨hafter, hafterfit⟩

theorem showings_eq {reusing : ReusingCursor} (hrooms : lexer.RoomsFit reusing.rooms)
    (count : Nat) : reusing.showings lexer count = reusing.cursor.showings lexer count := by
  induction count generalizing reusing with
  | zero => rfl
  | succ count ih =>
    obtain ⟨htoken, hcursor, hfit⟩ := pull_spec hgroups hrooms
    unfold showings Cursor.showings
    dsimp only
    rw [ih hfit, htoken, hcursor]

theorem schedule_eq {cursors : List ReusingCursor}
    (hrooms : ∀ reusing ∈ cursors, lexer.RoomsFit reusing.rooms) (steps : List Nat) :
    schedule lexer cursors steps = lexer.schedule (cursors.map (·.cursor)) steps := by
  induction steps generalizing cursors with
  | nil => rfl
  | cons index steps ih =>
    unfold schedule Lexer.schedule
    rw [List.getElem?_map]
    cases hindex : cursors[index]? with
    | none => exact ih hrooms
    | some reusing =>
      obtain ⟨htoken, hcursor, hfit⟩ := pull_spec hgroups (hrooms _ (List.mem_of_getElem? hindex))
      have hset : ∀ other ∈ cursors.set index (reusing.pull lexer).2,
          lexer.RoomsFit other.rooms := by
        intro other hother
        rcases List.mem_or_eq_of_mem_set hother with hmem | rfl
        · exact hrooms other hmem
        · exact hfit
      dsimp only [Option.map_some]
      rw [ih hset, List.map_set, htoken, hcursor]

end

end ReusingCursor

namespace RuleTable

open Lexer

/-- Whatever the order of pulls, each cursor shows what it shows alone, and so do cursors that keep
room for groups. What these show from some place in a text on depends on the place, the entered
states and the waiting tokens, but not on what earlier matches have left in the room. -/
theorem cursors_independent {table : RuleTable} {initial : String} {reader : PatternReader}
    {lexer : Lexer} (hbuild : build table initial reader = .ok lexer) :
    (∀ (sources : List String) steps index source, sources[index]? = some source →
      ((lexer.schedule (sources.map Cursor.start) steps).filter (·.index = index)).map
        (Pull.shown lexer) = (Cursor.start source).showings lexer (steps.count index)) ∧
    (∀ (sources : List String) steps,
      ReusingCursor.schedule lexer (sources.map (ReusingCursor.start lexer)) steps =
        lexer.schedule (sources.map Cursor.start) steps) ∧
    (∀ source count,
      (ReusingCursor.start lexer source).showings lexer count =
          (Cursor.start source).showings lexer count ∧
        ((ReusingCursor.start lexer source).after lexer count).cursor.In source ∧
        lexer.RoomsFit ((ReusingCursor.start lexer source).after lexer count).rooms) ∧
    ∀ source (reusing other : ReusingCursor),
      reusing.cursor.In source → lexer.RoomsFit reusing.rooms →
      other.cursor.In source → lexer.RoomsFit other.rooms →
      reusing.cursor.position = other.cursor.position →
      reusing.cursor.pushed = other.cursor.pushed →
      reusing.cursor.pending = other.cursor.pending →
      ∀ count, reusing.showings lexer count = other.showings lexer count := by
  have hgroups := groupsFit_of_build hbuild
  refine ⟨?_, ?_, ?_, ?_⟩
  · intro sources steps index source hsource
    apply shown_filter_schedule
    rw [List.getElem?_map, hsource]
    rfl
  · intro sources steps
    have hrooms : ∀ reusing ∈ sources.map (ReusingCursor.start lexer),
        lexer.RoomsFit reusing.rooms := by
      rw [List.forall_mem_map]
      intro source _
      exact .none lexer
    rw [ReusingCursor.schedule_eq hgroups hrooms, List.map_map]
    rfl
  · intro source count
    have hstart : lexer.RoomsFit (ReusingCursor.start lexer source).rooms := .none lexer
    obtain ⟨hcursor, hfit⟩ := ReusingCursor.after_spec hgroups hstart count
    rw [hcursor]
    exact ⟨ReusingCursor.showings_eq hgroups hstart count,
      (Cursor.In.start source).after lexer count, hfit⟩
  · intro source reusing other hin hrooms hother hothers hposition hpushed hpending count
    have hcursor := hin.eq_of_position_eq hother hposition hpushed hpending
    rw [ReusingCursor.showings_eq hgroups hrooms, ReusingCursor.showings_eq hgroups hothers,
      hcursor]

/-- The second group may take no part in a match. -/
def optionalGroup : RuleTable :=
  [⟨"root", [.rule ⟨"(a)(b)?", .byGroups [.name, .number], none⟩]⟩]

/-- Both groups of the first match are still in the room when the second one is tried. -/
theorem cursors_independent_optionalGroup : ∃ lexer, build optionalGroup "root" = .ok lexer ∧
    ((lexer.schedule (["aba", "a"].map Cursor.start) [0, 1, 0, 0]).filter (·.index = 0)).map
        (Pull.shown lexer) = (Cursor.start "aba").showings lexer 3 ∧
    let fresh := ReusingCursor.start lexer "aba"
    let used := fresh.after lexer 2
    used.rooms = [[some ⟨some 2, [some 0, some 1, some 1, some 2]⟩]] ∧
      ReusingCursor.showings lexer 1 ⟨used.cursor, fresh.rooms⟩ = used.showings lexer 1 ∧
      used.showings lexer 1 = [⟨some ⟨.name, "a", ⟨2, 3⟩⟩, 3, "root"⟩] := by
  have hrun : (build optionalGroup "root").toOption.map (fun lexer ↦
      (((ReusingCursor.start lexer "aba").after lexer 2).rooms,
        ((ReusingCursor.start lexer "aba").after lexer 2).showings lexer 1)) =
      some ([[some ⟨some 2, [some 0, some 1, some 1, some 2]⟩]],
        [⟨some ⟨.name, "a", ⟨2, 3⟩⟩, 3, "root"⟩]) := by
    cbv
  obtain ⟨lexer, hbuild, hshown⟩ := Except.map_toOption_eq_some_iff.1 hrun
  obtain ⟨hused, hshowings⟩ := Prod.mk.inj hshown
  obtain ⟨hschedule, -, hreusing, hforgets⟩ := cursors_independent hbuild
  obtain ⟨-, hin, hrooms⟩ := hreusing "aba" 2
  let fresh := ReusingCursor.start lexer "aba"
  have hsame := hforgets "aba" ⟨(fresh.after lexer 2).cursor, fresh.rooms⟩ (fresh.after lexer 2)
    hin (.none lexer) hin hrooms rfl rfl rfl 1
  exact ⟨lexer, hbuild, hschedule ["aba", "a"] [0, 1, 0, 0] 0 "aba" rfl, hused, hsame, hshowings⟩

end RuleTable

end LexTable
