import LexTable.Regex.CharSet
import LexTable.Regex.Look

/-!
# Regular expressions

The expressions that the matcher runs. Counted repetitions are written out, and a repetition
that may loop comes in two forms: `star`, whose body consumes text in every round, and `plus`,
which enters its body at least once and whose body may match the empty text.
-/

namespace LexTable

inductive Regex where
  | empty
  | chars (s : CharSet)
  | look (l : Look)
  | seq (r s : Regex)
  | alt (r s : Regex)
  /-- The text that `r` matches is group `i`, counted from 1. -/
  | group (i : Nat) (r : Regex)
  | opt (greedy : Bool) (r : Regex)
  | star (greedy : Bool) (r : Regex)
  | plus (greedy : Bool) (r : Regex)
  deriving DecidableEq

namespace Regex

/-- Every match is at least one character long. -/
def consumes : Regex → Bool
  | empty => false
  | chars _ => true
  | look _ => false
  | seq r s => r.consumes || s.consumes
  | alt r s => r.consumes && s.consumes
  | group _ r => r.consumes
  | opt _ _ => false
  | star _ _ => false
  | plus _ r => r.consumes

/-- Every match is empty. -/
def isAssertion : Regex → Bool
  | empty => true
  | chars _ => false
  | look _ => true
  | seq r s => r.isAssertion && s.isAssertion
  | alt r s => r.isAssertion && s.isAssertion
  | group _ r => r.isAssertion
  | opt _ r => r.isAssertion
  | star _ r => r.isAssertion
  | plus _ r => r.isAssertion

/-- The number of the last group, 0 if there is none. -/
def lastGroup : Regex → Nat
  | empty => 0
  | chars _ => 0
  | look _ => 0
  | seq r s => max r.lastGroup s.lastGroup
  | alt r s => max r.lastGroup s.lastGroup
  | group i r => max i r.lastGroup
  | opt _ r => r.lastGroup
  | star _ r => r.lastGroup
  | plus _ r => r.lastGroup

def hasGroup : Regex → Nat → Bool
  | empty, _ => false
  | chars _, _ => false
  | look _, _ => false
  | seq r s, i => r.hasGroup i || s.hasGroup i
  | alt r s, i => r.hasGroup i || s.hasGroup i
  | group j r, i => i == j || r.hasGroup i
  | opt _ r, i => r.hasGroup i
  | star _ r, i => r.hasGroup i
  | plus _ r, i => r.hasGroup i

/-- How many groups there are. A group in a repetition that is written out stands in each of its
rounds and is one group. In a repetition without rounds there is no group, so the last group may
have a higher number. -/
def groupCount (r : Regex) : Nat :=
  (List.range' 1 r.lastGroup).countP r.hasGroup

theorem groupCount_le_lastGroup (r : Regex) : r.groupCount ≤ r.lastGroup := by
  have hcount : r.groupCount ≤ (List.range' 1 r.lastGroup).length := List.countP_le_length
  rwa [List.length_range'] at hcount

def seqAll : List Regex → Regex
  | [] => empty
  | [r] => r
  | r :: rs => seq r (seqAll rs)

/-- The alternatives, the first one preferred. -/
def altAll : List Regex → Regex
  | [] => empty
  | [r] => r
  | r :: rs => alt r (altAll rs)

/-- At most `n` rounds of `r`, each one inside the round before. -/
def upTo (greedy : Bool) (r : Regex) : Nat → Regex
  | 0 => empty
  | 1 => opt greedy r
  | n + 1 => opt greedy (seq r (upTo greedy r n))

/-- At least `n` rounds of `r`. -/
def atLeast (greedy : Bool) (r : Regex) : Nat → Regex
  | 0 => if r.consumes then star greedy r else opt greedy (plus greedy r)
  | 1 => plus greedy r
  | n + 1 => seq r (atLeast greedy r n)

/-- From `least` to `most` rounds of `r`. -/
def between (greedy : Bool) (r : Regex) (least most : Nat) : Regex :=
  seqAll (List.replicate least r ++
    if least < most then [upTo greedy r (most - least)] else [])

/-- From `least` to `most` rounds of `r`, without a limit if `most` is missing. More than one
round of an expression that matches nothing but the empty text is as good as one. -/
def repeated (greedy : Bool) (r : Regex) (least : Nat) (most : Option Nat) : Regex :=
  if r.isAssertion then
    between greedy r (min least 1) ((most.map (min 1)).getD 1)
  else
    match most with
    | none => atLeast greedy r least
    | some most => between greedy r least most

end Regex

end LexTable
