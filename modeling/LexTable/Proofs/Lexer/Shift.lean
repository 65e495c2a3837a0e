import LexTable.Proofs.Lexer.Scan
import LexTable.Proofs.Regex.LookBehind

/-!
# Scanning with more text before

What lies before a text moves its tokens and changes nothing else, as long as the assertions of the
lexer hold alike at its start. Further on they see characters of the text itself.
-/

namespace LexTable

open Text (byteLength)

/-- The token with `distance` more bytes before it. -/
def Token.shift (distance : Nat) (token : Token) : Token :=
  { token with span := ⟨distance + token.span.start, distance + token.span.stop⟩ }

theorem Token.shift_of (distance : Nat) (kind : Kind) (position : Nat) (value : List Char) :
    (Token.of kind position value).shift distance = Token.of kind (distance + position) value := by
  simp [Token.of, shift, Nat.add_assoc]

theorem Token.cut_shift (distance position : Nat) (text : List Char) (pieces : List (Kind × Nat)) :
    Token.cut (distance + position) text pieces =
      (Token.cut position text pieces).map (Token.shift distance) := by
  induction pieces generalizing position text with
  | nil => rfl
  | cons piece pieces ih =>
    rw [Token.cut, Token.cut, List.map_cons, Nat.add_assoc, ih]
    rfl

def Stretch.shift (distance : Nat) (stretch : Stretch) : Stretch :=
  ⟨distance + stretch.stop, stretch.stack, stretch.tokens.map (Token.shift distance)⟩

theorem Stretch.flatMap_tokens_shift (distance : Nat) (scan : List Stretch) :
    (scan.map (Stretch.shift distance)).flatMap (·.tokens) =
      (scan.flatMap (·.tokens)).map (Token.shift distance) := by
  rw [List.flatMap_map, List.map_flatMap]
  rfl

/-- Every assertion in a rule of the lexer holds alike after the two. -/
def Lexer.Alike (lexer : Lexer) (before other : Option Char) : Prop :=
  ∀ name, ∀ rule ∈ lexer.rulesOf name, ∀ l ∈ rule.regex.looks, l.Alike before other

theorem Lexer.Alike.refl (lexer : Lexer) (before : Option Char) : lexer.Alike before before :=
  fun _ _ _ _ _ _ ↦ rfl

theorem Lexer.Alike.firstMatch?_eq {lexer : Lexer} {before other : Option Char}
    (halike : lexer.Alike before other) (name : String) (rest : List Char) :
    firstMatch? before rest (lexer.rulesOf name) = firstMatch? other rest (lexer.rulesOf name) := by
  have hmatch : ∀ rule ∈ lexer.rulesOf name,
      rule.regex.match? before rest = rule.regex.match? other rest :=
    fun rule hrule ↦ Regex.match?_congr (halike name rule hrule) rest
  generalize lexer.rulesOf name = rules at hmatch
  induction rules with
  | nil => rfl
  | cons rule rules ih =>
    rw [List.forall_mem_cons] at hmatch
    rw [firstMatch?, firstMatch?, hmatch.1, ih hmatch.2]

section

variable {lexer : Lexer} {stack : Stack} {done rest : List Char}

theorem Consumes.shift {length : Nat} {stretch : Stretch} (before : List Char)
    (halike : lexer.Alike (before ++ done).getLast? done.getLast?)
    (hstep : Consumes lexer stack done rest length stretch) :
    Consumes lexer stack (before ++ done) rest length (stretch.shift (byteLength before)) := by
  have hfirst := halike.firstMatch?_eq stack.top rest
  cases hstep with
  | matched happlies =>
    rw [← firstMatch?_eq_some_iff, ← hfirst, firstMatch?_eq_some_iff] at happlies
    simpa [Stretch.shift, ← Token.cut_shift, Nat.add_assoc] using Consumes.matched happlies
  | newline hnone hhead =>
    rw [← firstMatch?_eq_none_iff, ← hfirst, firstMatch?_eq_none_iff] at hnone
    simpa [Stretch.shift, Token.shift_of, Nat.add_assoc] using Consumes.newline hnone hhead
  | other hnone hhead hc =>
    rw [← firstMatch?_eq_none_iff, ← hfirst, firstMatch?_eq_none_iff] at hnone
    simpa [Stretch.shift, Token.shift_of, Nat.add_assoc] using Consumes.other hnone hhead hc

/-- After the first character it no longer matters what lies before. -/
theorem Scan.shift {scan : List Stretch} (before : List Char)
    (halike : lexer.Alike (before ++ done).getLast? done.getLast?)
    (hscan : Scan lexer stack done rest scan) :
    Scan lexer stack (before ++ done) rest (scan.map (Stretch.shift (byteLength before))) := by
  induction hscan with
  | finish stack done => exact .finish stack _
  | @step stack done rest length stretch stretches hstep _ ih =>
    have htake : rest.take length ≠ [] := by
      intro hnil
      rcases List.take_eq_nil_iff.1 hnil with hzero | hrest
      · exact absurd hzero (Nat.ne_of_gt hstep.length_pos)
      · exact hstep.rest_ne_nil hrest
    have hlast : (before ++ (done ++ rest.take length)).getLast? =
        (done ++ rest.take length).getLast? := by
      rw [← List.append_assoc, List.getLast?_append_of_ne_nil _ htake,
        List.getLast?_append_of_ne_nil _ htake]
    have hnext := ih (hlast ▸ .refl lexer _)
    rw [← List.append_assoc] at hnext
    exact .step (hstep.shift before halike) hnext

end

end LexTable
