import LexTable.Regex.Basic

/-!
# Leftmost-first matching

A match begins at a given place, and of all ways to match the preferred one counts: the first
alternative before the second, one more round before none if a repetition is greedy.

All ways are followed side by side, one character after the other, in order of preference. What
a way has still to match is a stack of expressions. At one place a stack is entered only once,
because a second way with the same stack could do no better than the first. So the work is
bounded by the length of the text times the size of the expression.
-/

namespace LexTable

/-- The places where the groups begin and end: group `i` owns the slots `2 * i - 2` and
`2 * i - 1`. -/
abbrev Slots := List (Option Nat)

namespace Matcher

inductive Frame where
  | run (r : Regex)
  | close (i : Nat)
  deriving DecidableEq

/-- What is still to be matched, the next part first. -/
abbrev Rest := List Frame

structure Thread where
  rest : Rest
  slots : Slots
  deriving DecidableEq

/-- A place in the text: the characters around it, and how far it is from the start. -/
structure Place where
  before : Option Char
  after : Option Char
  offset : Nat
  deriving DecidableEq

/-- What has been found at one place. `waiting` holds, the latest first, the ways on that take
the character after the place. -/
structure Search where
  entered : List Rest := []
  waiting : List Thread := []
  accepted : Option Slots := none
  deriving DecidableEq

abbrev Move := Slots → Search → Search

/-- A way that leads nowhere. -/
def dead : Move := fun _ search => search

/-- Ends a match, which stops all ways of lower preference. -/
def accept : Move := fun slots search =>
  if search.accepted.isSome then search else { search with accepted := some slots }

/-- Goes on if nothing was accepted and no earlier way has entered this stack here. -/
def once (rest : Rest) (move : Move) : Move := fun slots search =>
  if search.accepted.isSome || search.entered.contains rest then search
  else move slots { search with entered := rest :: search.entered }

/-- Takes the character after the place, if the set holds it. -/
def Place.take (place : Place) (s : CharSet) (rest : Rest) : Move := fun slots search =>
  if search.accepted.isNone && place.after.any s.contains then
    { search with waiting := ⟨rest, slots⟩ :: search.waiting }
  else
    search

/-- Follows all ways through `r` that lead to the next character or, without one, to the end of
`r`, where `next` goes on. The stack beyond `r` is `rest`. -/
def explore (place : Place) : Regex → Rest → Move → Move
  | .empty, _, next => next
  | .chars s, rest, _ => place.take s rest
  | .look l, _, next => fun slots search =>
    if l.holds place.before place.after then next slots search else search
  | .seq r s, rest, next =>
    explore place r (.run s :: rest) (once (.run s :: rest) (explore place s rest next))
  | .alt r s, rest, next => fun slots search =>
    explore place s rest next slots (explore place r rest next slots search)
  | .group i r, rest, next => fun slots search =>
    explore place r (.close i :: rest)
      (fun slots => next (slots.set (2 * i - 1) (some place.offset)))
      (slots.set (2 * i - 2) (some place.offset)) search
  | .opt greedy r, rest, next => fun slots search =>
    if greedy then next slots (explore place r rest next slots search)
    else explore place r rest next slots (next slots search)
  | .star greedy r, rest, next => fun slots search =>
    let round := explore place r (.run (.star greedy r) :: rest) dead
    if greedy then next slots (round slots search) else round slots (next slots search)
  | .plus greedy r, rest, next =>
    explore place r (.run (.star greedy r) :: rest) (once (.run (.star greedy r) :: rest) next)

/-- Follows a stack from a place. -/
def enter (place : Place) : Rest → Move
  | [] => accept
  | .run r :: rest => once (.run r :: rest) (explore place r rest (enter place rest))
  | .close i :: rest => fun slots =>
    enter place rest (slots.set (2 * i - 1) (some place.offset))

/-- The search at a place that the threads have reached, the preferred one first. -/
def visit (place : Place) (threads : List Thread) : Search :=
  threads.foldl (fun search thread => enter place thread.rest thread.slots search) {}

/-- Follows threads through a text and keeps the last end of a match: one that comes later is
of a way that was preferred. -/
def run (before : Option Char) (offset : Nat) (threads : List Thread)
    (best : Option (Nat × Slots)) : List Char → Option (Nat × Slots)
  | [] =>
    let search := visit ⟨before, none, offset⟩ threads
    (search.accepted.map fun slots => (offset, slots)).or best
  | c :: cs =>
    let search := visit ⟨before, some c, offset⟩ threads
    let best := (search.accepted.map fun slots => (offset, slots)).or best
    if search.waiting.isEmpty then best
    else run (some c) (offset + 1) search.waiting.reverse best cs

end Matcher

/-- A match at the start of a text. -/
structure Match where
  length : Nat
  slots : Slots
  deriving DecidableEq

namespace Match

/-- Where group `i` of the match begins and ends, if it took part. -/
def group? (m : Match) (i : Nat) : Option (Nat × Nat) :=
  match m.slots[2 * i - 2]?, m.slots[2 * i - 1]? with
  | some (some first), some (some last) => some (first, last)
  | _, _ => none

end Match

/-- The preferred match of `r` at the start of `text`, which the character `before` precedes. -/
def Regex.match? (r : Regex) (before : Option Char) (text : List Char) : Option Match :=
  let thread := ⟨[.run r], List.replicate (2 * r.lastGroup) none⟩
  (Matcher.run before 0 [thread] none text).map fun found => ⟨found.1, found.2⟩

end LexTable
