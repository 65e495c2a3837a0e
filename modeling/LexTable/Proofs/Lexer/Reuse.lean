import LexTable.Proofs.Lexer.StateStack

/-!
# Room for groups

A search may write the groups of a match into room that an earlier search of the same rule has
used. What is left there never shows: a match is written over it, and without a match nothing is
read. All that counts is that the room has slots for the groups of its rule, which no search
changes.
-/

namespace LexTable

/-- Room for the groups of a match. The length is missing if the last search found no match. -/
structure Captures where
  length? : Option Nat := none
  slots : Slots
  deriving DecidableEq

namespace Captures

/-- Room for all groups of an expression. -/
def create (r : Regex) : Captures where
  slots := List.replicate (2 * r.lastGroup) none

/-- Searches for a match of `r` and writes it over the slots, as far as there are any. Without a
match they stay as they were. -/
def search (captures : Captures) (r : Regex) (before : Option Char) (rest : List Char) :
    Captures :=
  match r.match? before rest with
  | some m => ⟨some m.length, captures.slots.mapIdx fun slot _ ↦ m.slots[slot]?.join⟩
  | none => { captures with length? := none }

/-- The match that the last search found. -/
def match? (captures : Captures) : Option Match :=
  captures.length?.map fun length ↦ ⟨length, captures.slots⟩

theorem length_slots_search (captures : Captures) (r : Regex) (before : Option Char)
    (rest : List Char) : (captures.search r before rest).slots.length = captures.slots.length := by
  unfold search
  split
  · exact List.length_mapIdx
  · rfl

/-- Where a match is found, the room shows it in all groups for which it has slots. -/
theorem exists_match?_search {r : Regex} {before : Option Char} {rest : List Char} {m : Match}
    (hmatch : r.match? before rest = some m) (captures : Captures) :
    ∃ found, (captures.search r before rest).match? = some found ∧ found.length = m.length ∧
      ∀ i, 2 * i - 1 < captures.slots.length → found.group? i = m.group? i := by
  refine ⟨⟨m.length, captures.slots.mapIdx fun slot _ ↦ m.slots[slot]?.join⟩, ?_, rfl, ?_⟩
  · rw [match?, search, hmatch]
    rfl
  · intro i hi
    unfold Match.group?
    have hslot (slot : Nat) (hslot : slot < captures.slots.length) :
        (captures.slots.mapIdx fun slot _ ↦ m.slots[slot]?.join)[slot]? =
          some m.slots[slot]?.join := by
      simp [hslot]
    rw [hslot _ hi, hslot _ (by omega)]
    cases m.slots[2 * i - 2]? with
    | none => rfl
    | some first =>
      cases m.slots[2 * i - 1]? with
      | none => cases first <;> rfl
      | some last => rfl

end Captures

/-- Only the groups for which there are kinds count. -/
theorem Action.pieces_byGroups_congr {kinds : List Kind} {found m : Match}
    (hlength : found.length = m.length)
    (hgroups : ∀ index < kinds.length, found.group? (index + 1) = m.group? (index + 1)) :
    (Action.byGroups kinds).pieces found = (Action.byGroups kinds).pieces m := by
  have hsame : kinds.mapIdx (fun index kind ↦ (kind, found.group? (index + 1))) =
      kinds.mapIdx (fun index kind ↦ (kind, m.group? (index + 1))) := by
    apply List.mapIdx_eq_mapIdx_iff.2
    intro index hindex
    rw [hgroups index hindex]
  rw [Action.pieces, Action.pieces, hlength, hsame]

namespace Lexer

/-- A group action of the rule asks for no more groups than the expression has. -/
def Rule.GroupsFit (rule : Rule) : Prop :=
  ∀ kinds, rule.action = .byGroups kinds → kinds.length ≤ rule.regex.lastGroup

/-- The room has slots for all groups of the rule, whatever they hold. -/
def Rule.RoomFits (rule : Rule) (room : Option Captures) : Prop :=
  ∀ captures ∈ room, captures.slots.length = 2 * rule.regex.lastGroup

/-- Searches for a match of the rule and gives the room back. Only for a group action is there
anything to keep. -/
def Rule.search (rule : Rule) (room : Option Captures) (before : Option Char)
    (rest : List Char) : Option Match × Option Captures :=
  match rule.action with
  | .token _ => (rule.regex.match? before rest, room)
  | .byGroups _ =>
    let captures := (room.getD (.create rule.regex)).search rule.regex before rest
    (captures.match?, some captures)

/-- The first match that is not empty, with its rule, and the rooms of the rules after it. -/
def firstMatchIn (before : Option Char) (rest : List Char) :
    List Rule → List (Option Captures) → Option (Rule × Match) × List (Option Captures)
  | rule :: rules, room :: rooms =>
    let (found, room) := rule.search room before rest
    match found.filter (·.length ≠ 0) with
    | some m => (some (rule, m), room :: rooms)
    | none =>
      let (later, rooms) := firstMatchIn before rest rules rooms
      (later, room :: rooms)
  | _, rooms => (none, rooms)

/-- What becomes of a match: how much it consumes, into which pieces it is divided and what it
does to the stack. -/
structure Effect where
  length : Nat
  pieces : List (Kind × Nat)
  next : Option Transition

def effect (found : Rule × Match) : Effect :=
  ⟨found.2.length, found.1.action.pieces found.2, found.1.next⟩

section search

variable (before : Option Char) (rest : List Char)

/-- What the room holds does not matter, and after the search it still fits. -/
theorem Rule.search_spec {rule : Rule} {room : Option Captures} (hgroups : rule.GroupsFit)
    (hroom : rule.RoomFits room) :
    (rule.search room before rest).1.map (fun found ↦ effect (rule, found)) =
        (rule.regex.match? before rest).map (fun m ↦ effect (rule, m)) ∧
      rule.RoomFits (rule.search room before rest).2 := by
  unfold Rule.search
  cases haction : rule.action with
  | token kind => exact ⟨rfl, hroom⟩
  | byGroups kinds =>
    have hslots : (room.getD (.create rule.regex)).slots.length = 2 * rule.regex.lastGroup := by
      cases room with
      | none => exact List.length_replicate
      | some captures => exact hroom captures rfl
    generalize room.getD (.create rule.regex) = captures at hslots
    refine ⟨?_, ?_⟩
    · cases hmatch : rule.regex.match? before rest with
      | none => simp [Captures.search, Captures.match?, hmatch]
      | some m =>
        obtain ⟨found, hfound, hlength, hsame⟩ := captures.exists_match?_search hmatch
        have hpieces : (Action.byGroups kinds).pieces found = (Action.byGroups kinds).pieces m := by
          apply Action.pieces_byGroups_congr hlength
          intro index hindex
          have hcount := hgroups kinds haction
          exact hsame _ (by omega)
        dsimp only
        rw [hfound, Option.map_some, Option.map_some, effect, effect, haction, hpieces, hlength]
    · intro after hafter
      obtain rfl := Option.some.inj hafter
      rw [Captures.length_slots_search]
      exact hslots

/-- Rooms that fit the rules give what is found without them, and fit again. -/
theorem firstMatchIn_spec {rules : List Rule} {rooms : List (Option Captures)}
    (hgroups : ∀ rule ∈ rules, rule.GroupsFit) (hrooms : List.Forall₂ Rule.RoomFits rules rooms) :
    (firstMatchIn before rest rules rooms).1.map effect =
        (firstMatch? before rest rules).map effect ∧
      List.Forall₂ Rule.RoomFits rules (firstMatchIn before rest rules rooms).2 := by
  induction hrooms with
  | nil => exact ⟨rfl, .nil⟩
  | @cons rule room rules rooms hroom hrooms ih =>
    obtain ⟨hrule, hrules⟩ := List.forall_mem_cons.1 hgroups
    obtain ⟨heffect, hafter⟩ := rule.search_spec before rest hrule hroom
    obtain ⟨hlater, hfit⟩ := ih hrules
    unfold firstMatchIn firstMatch?
    generalize rule.search room before rest = searched at heffect hafter ⊢
    obtain ⟨found?, after⟩ := searched
    dsimp only at heffect hafter ⊢
    cases hmatch : rule.regex.match? before rest with
    | none =>
      rw [hmatch, Option.map_none, Option.map_eq_none_iff] at heffect
      rw [heffect]
      exact ⟨hlater, .cons hafter hfit⟩
    | some m =>
      rw [hmatch, Option.map_some, Option.map_eq_some_iff] at heffect
      obtain ⟨found, rfl, hsame⟩ := heffect
      have hlength : found.length = m.length := congrArg Effect.length hsame
      by_cases hempty : m.length = 0
      · rw [Option.filter_some_neg (by simp [hlength, hempty])]
        dsimp only
        rw [if_pos hempty]
        exact ⟨hlater, .cons hafter hfit⟩
      · rw [Option.filter_some_pos (by simp [hlength, hempty])]
        dsimp only
        rw [if_neg hempty]
        exact ⟨congrArg some hsame, .cons hafter hrooms⟩

end search

/-- The rooms fit the rules, state by state. -/
def RoomsFit (lexer : Lexer) (rooms : List (List (Option Captures))) : Prop :=
  List.Forall₂ (fun state row ↦ List.Forall₂ Rule.RoomFits state.rules row) lexer.states rooms

/-- The rules of the state at a place. -/
def rulesAt (lexer : Lexer) (place : Nat) : List Rule :=
  (lexer.states[place]?).elim [] (·.rules)

theorem rulesAt_placeOf (lexer : Lexer) (name : String) :
    lexer.rulesAt (lexer.placeOf name) = lexer.rulesOf name := by
  rw [rulesAt, rulesOf, placeOf, find?, List.find?_eq_getElem?_findIdx, List.idxOf,
    List.findIdx_map]
  rfl

namespace RoomsFit

variable {lexer : Lexer} {rooms : List (List (Option Captures))}

theorem row (hrooms : lexer.RoomsFit rooms) (place : Nat) :
    List.Forall₂ Rule.RoomFits (lexer.rulesAt place) (rooms[place]?.getD []) := by
  unfold RoomsFit at hrooms
  unfold rulesAt
  generalize lexer.states = states at hrooms ⊢
  induction hrooms generalizing place with
  | nil => exact .nil
  | cons hrow _ ih =>
    cases place with
    | zero => exact hrow
    | succ place => exact ih place

theorem set (hrooms : lexer.RoomsFit rooms) {place : Nat} {row : List (Option Captures)}
    (hrow : List.Forall₂ Rule.RoomFits (lexer.rulesAt place) row) :
    lexer.RoomsFit (rooms.set place row) := by
  unfold RoomsFit at hrooms ⊢
  unfold rulesAt at hrow
  generalize lexer.states = states at hrooms hrow ⊢
  induction hrooms generalizing place with
  | nil => exact .nil
  | cons hfirst hrest ih =>
    cases place with
    | zero => exact .cons hrow hrest
    | succ place => exact .cons hfirst (ih hrow)

/-- Room that no search has made yet fits. -/
theorem none (lexer : Lexer) :
    lexer.RoomsFit (lexer.states.map fun state ↦ state.rules.map fun _ ↦ Option.none) := by
  unfold RoomsFit
  rw [List.forall₂_map_right_iff, List.forall₂_same]
  intro state _
  rw [List.forall₂_map_right_iff, List.forall₂_same]
  intro rule _ captures hnone
  cases hnone

end RoomsFit

end Lexer

namespace RuleTable

open Lexer

theorem groupsFit_of_build {table : RuleTable} {initial : String} {reader : PatternReader}
    {lexer : Lexer} (hbuild : build table initial reader = .ok lexer) (name : String) :
    ∀ rule ∈ lexer.rulesOf name, rule.GroupsFit := by
  intro rule hrule kinds hkinds
  obtain ⟨state, hstate, hmem⟩ := exists_state_of_mem_rulesOf hrule
  obtain ⟨source, hready⟩ := exists_reads_of_build hbuild hstate hmem
  have hcount : kinds.length ≤ rule.regex.groupCount :=
    (hready.groups_fit kinds (hready.action_eq ▸ hkinds)).2
  exact hcount.trans rule.regex.groupCount_le_lastGroup

end RuleTable

end LexTable
