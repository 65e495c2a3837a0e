import LexTable.Proofs.Lexer.Pieces
import Mathlib.Data.List.Chain

/-!
# Scanning match by match

A scan goes through a text match by match. Where rules of the current state match, the first of
them is applied, and where none does, one character is taken. A text has at most one scan, whose
tokens tile the text and whose matches end one after the other up to the end of the text.
-/

namespace LexTable

open Text (byteLength)

/-- The states that were entered and not left again, the current one on top. -/
structure Stack where
  top : String
  below : List String

/-- The last state is never left. -/
def Stack.move (stack : Stack) : Option Transition → Stack
  | none => stack
  | some (.push state) => ⟨state, stack.top :: stack.below⟩
  | some .pop =>
    match stack.below with
    | [] => stack
    | state :: below => ⟨state, below⟩

/-- The rule has a match that is not empty at the start of `rest`, with `done` before it. -/
def Lexer.Rule.Consumes (rule : Lexer.Rule) (done rest : List Char) (m : Match) : Prop :=
  rule.regex.match? done.getLast? rest = some m ∧ m.length ≠ 0

def Unmatched (rules : List Lexer.Rule) (done rest : List Char) : Prop :=
  ∀ rule ∈ rules, ∀ m, ¬ rule.Consumes done rest m

/-- `rule` is the first of the rules that consumes text. -/
def Applies (rules : List Lexer.Rule) (done rest : List Char) (rule : Lexer.Rule) (m : Match) :
    Prop :=
  ∃ earlier later, rules = earlier ++ rule :: later ∧ Unmatched earlier done rest ∧
    rule.Consumes done rest m

/-- What became of the text that one match consumed: where it ends, the states after it, and its
tokens. -/
structure Stretch where
  stop : Nat
  stack : Stack
  tokens : List Token

/-- The next `length` characters, between `done` and what remains of `rest`, make the stretch. -/
inductive Consumes (lexer : Lexer) (stack : Stack) (done rest : List Char) : Nat → Stretch → Prop
  | matched {rule : Lexer.Rule} {m : Match}
      (happlies : Applies (lexer.rulesOf stack.top) done rest rule m) :
      Consumes lexer stack done rest m.length
        ⟨byteLength (done ++ rest.take m.length), stack.move rule.next,
          Token.cut (byteLength done) (rest.take m.length) (rule.action.pieces m)⟩
  | newline (hnone : Unmatched (lexer.rulesOf stack.top) done rest)
      (hhead : rest.head? = some '\n') :
      Consumes lexer stack done rest 1
        ⟨byteLength (done ++ ['\n']), ⟨lexer.initial, []⟩,
          [Token.of .whitespace (byteLength done) ['\n']]⟩
  | other {c : Char} (hnone : Unmatched (lexer.rulesOf stack.top) done rest)
      (hhead : rest.head? = some c) (hc : c ≠ '\n') :
      Consumes lexer stack done rest 1
        ⟨byteLength (done ++ [c]), stack, [Token.of .error (byteLength done) [c]]⟩

/-- The stretches of `rest`, one after the other, from the place after `done` with the states of
the stack entered. -/
inductive Scan (lexer : Lexer) : Stack → List Char → List Char → List Stretch → Prop
  | finish (stack : Stack) (done : List Char) : Scan lexer stack done [] []
  | step {stack : Stack} {done rest : List Char} {length : Nat} {stretch : Stretch}
      {stretches : List Stretch} (hstep : Consumes lexer stack done rest length stretch)
      (hscan : Scan lexer stretch.stack (done ++ rest.take length) (rest.drop length) stretches) :
      Scan lexer stack done rest (stretch :: stretches)

theorem unmatched_cons {rule : Lexer.Rule} {rules : List Lexer.Rule} {done rest : List Char} :
    Unmatched (rule :: rules) done rest ↔
      (∀ m, ¬ rule.Consumes done rest m) ∧ Unmatched rules done rest :=
  List.forall_mem_cons

theorem firstMatch?_cons_of_consumes {rule : Lexer.Rule} {rules : List Lexer.Rule}
    {done rest : List Char} {m : Match} (hrule : rule.Consumes done rest m) :
    Lexer.firstMatch? done.getLast? rest (rule :: rules) = some (rule, m) := by
  rw [Lexer.firstMatch?, hrule.1]
  exact if_neg hrule.2

theorem firstMatch?_cons_of_not_consumes {rule : Lexer.Rule} {rules : List Lexer.Rule}
    {done rest : List Char} (hrule : ∀ m, ¬ rule.Consumes done rest m) :
    Lexer.firstMatch? done.getLast? rest (rule :: rules) =
      Lexer.firstMatch? done.getLast? rest rules := by
  rw [Lexer.firstMatch?]
  cases hmatch : rule.regex.match? done.getLast? rest with
  | none => rfl
  | some m =>
    have hempty : m.length = 0 := by
      by_contra hne
      exact hrule m ⟨hmatch, hne⟩
    exact if_pos hempty

theorem firstMatch?_eq_none_iff {done rest : List Char} {rules : List Lexer.Rule} :
    Lexer.firstMatch? done.getLast? rest rules = none ↔ Unmatched rules done rest := by
  induction rules with
  | nil => simp [Lexer.firstMatch?, Unmatched]
  | cons rule rules ih =>
    rw [unmatched_cons]
    by_cases hrule : ∃ m, rule.Consumes done rest m
    · obtain ⟨m, hrule⟩ := hrule
      rw [firstMatch?_cons_of_consumes hrule]
      constructor
      · intro hsome
        cases hsome
      · rintro ⟨hnot, -⟩
        exact absurd hrule (hnot m)
    · have hnot := not_exists.1 hrule
      rw [firstMatch?_cons_of_not_consumes hnot, ih]
      constructor
      · intro hrest
        exact ⟨hnot, hrest⟩
      · intro hboth
        exact hboth.2

theorem Applies.cons {rule other : Lexer.Rule} {rules : List Lexer.Rule} {done rest : List Char}
    {m : Match} (hother : ∀ m, ¬ other.Consumes done rest m)
    (happlies : Applies rules done rest rule m) : Applies (other :: rules) done rest rule m := by
  obtain ⟨earlier, later, rfl, hearlier, hrule⟩ := happlies
  exact ⟨other :: earlier, later, rfl, unmatched_cons.2 ⟨hother, hearlier⟩, hrule⟩

theorem firstMatch?_eq_some_iff {done rest : List Char} {rules : List Lexer.Rule}
    {rule : Lexer.Rule} {m : Match} :
    Lexer.firstMatch? done.getLast? rest rules = some (rule, m) ↔
      Applies rules done rest rule m := by
  constructor
  · intro hfirst
    induction rules with
    | nil => cases hfirst
    | cons other rules ih =>
      by_cases hother : ∃ m, other.Consumes done rest m
      · obtain ⟨found, hother⟩ := hother
        rw [firstMatch?_cons_of_consumes hother] at hfirst
        cases hfirst
        exact ⟨[], rules, rfl, by simp [Unmatched], hother⟩
      · have hnot := not_exists.1 hother
        rw [firstMatch?_cons_of_not_consumes hnot] at hfirst
        exact (ih hfirst).cons hnot
  · rintro ⟨earlier, later, rfl, hearlier, hrule⟩
    induction earlier with
    | nil => exact firstMatch?_cons_of_consumes hrule
    | cons other earlier ih =>
      obtain ⟨hother, hearlier⟩ := unmatched_cons.1 hearlier
      rw [List.cons_append, firstMatch?_cons_of_not_consumes hother]
      exact ih hearlier

theorem Applies.unique {rules : List Lexer.Rule} {done rest : List Char} {rule other : Lexer.Rule}
    {m n : Match} (hrule : Applies rules done rest rule m)
    (hother : Applies rules done rest other n) : rule = other ∧ m = n := by
  rw [← firstMatch?_eq_some_iff] at hrule hother
  rw [hrule] at hother
  exact Prod.mk.inj (Option.some.inj hother)

theorem Applies.not_unmatched {rules : List Lexer.Rule} {done rest : List Char}
    {rule : Lexer.Rule} {m : Match} (happlies : Applies rules done rest rule m) :
    ¬ Unmatched rules done rest := by
  rw [← firstMatch?_eq_none_iff, firstMatch?_eq_some_iff.2 happlies]
  exact Option.some_ne_none _

theorem Applies.mem {rules : List Lexer.Rule} {done rest : List Char} {rule : Lexer.Rule}
    {m : Match} (happlies : Applies rules done rest rule m) : rule ∈ rules := by
  obtain ⟨earlier, later, rfl, -, -⟩ := happlies
  simp

theorem Applies.consumes {rules : List Lexer.Rule} {done rest : List Char} {rule : Lexer.Rule}
    {m : Match} (happlies : Applies rules done rest rule m) : rule.Consumes done rest m := by
  obtain ⟨-, -, -, -, hconsumes⟩ := happlies
  exact hconsumes

theorem Applies.fits {rules : List Lexer.Rule} {done rest : List Char} {rule : Lexer.Rule}
    {m : Match} (happlies : Applies rules done rest rule m) : m.Fits rest.length := by
  obtain ⟨-, -, -, -, hmatch, -⟩ := happlies
  exact Regex.match?_fits hmatch

theorem Applies.length_pos {rules : List Lexer.Rule} {done rest : List Char} {rule : Lexer.Rule}
    {m : Match} (happlies : Applies rules done rest rule m) : 0 < m.length := by
  obtain ⟨-, -, -, -, -, hlength⟩ := happlies
  exact Nat.pos_of_ne_zero hlength

namespace Consumes

variable {lexer : Lexer} {stack : Stack} {done rest : List Char} {length : Nat} {stretch : Stretch}

theorem length_pos (hstep : Consumes lexer stack done rest length stretch) : 0 < length := by
  cases hstep with
  | matched happlies => exact happlies.length_pos
  | newline | other => exact Nat.one_pos

theorem length_le (hstep : Consumes lexer stack done rest length stretch) :
    length ≤ rest.length := by
  cases hstep with
  | matched happlies => exact happlies.fits.length_le
  | newline _ hhead | other _ hhead _ =>
    obtain ⟨tail, rfl⟩ := List.head?_eq_some_iff.1 hhead
    exact Nat.le_add_left 1 tail.length

theorem rest_ne_nil (hstep : Consumes lexer stack done rest length stretch) : rest ≠ [] := by
  have hlength := Nat.lt_of_lt_of_le hstep.length_pos hstep.length_le
  exact List.length_pos_iff.1 hlength

theorem stop_eq (hstep : Consumes lexer stack done rest length stretch) :
    stretch.stop = byteLength (done ++ rest.take length) := by
  cases hstep with
  | matched => rfl
  | newline _ hhead | other _ hhead _ =>
    obtain ⟨tail, rfl⟩ := List.head?_eq_some_iff.1 hhead
    rfl

/-- A match is divided without a gap, and a character makes a token of its own. -/
theorem tiles (hstep : Consumes lexer stack done rest length stretch) :
    Tiles (byteLength done) (rest.take length) stretch.tokens := by
  have hone (kind : Kind) (c : Char) :
      Tiles (byteLength done) [c] [Token.of kind (byteLength done) [c]] :=
    .cons kind _ (List.cons_ne_nil c []) (.nil _)
  cases hstep with
  | @matched rule m happlies =>
    have hlength : (rest.take m.length).length = m.length :=
      List.length_take_of_le happlies.fits.length_le
    apply Token.cut_tiles
    rw [hlength]
    exact rule.action.pieces_partition happlies.fits happlies.length_pos
  | newline _ hhead | other _ hhead _ =>
    obtain ⟨tail, rfl⟩ := List.head?_eq_some_iff.1 hhead
    exact hone _ _

theorem tokens_ne_nil (hstep : Consumes lexer stack done rest length stretch) :
    stretch.tokens ≠ [] := by
  apply hstep.tiles.tokens_ne_nil
  intro htake
  rcases List.take_eq_nil_iff.1 htake with hzero | hnil
  · exact absurd hzero (Nat.ne_of_gt hstep.length_pos)
  · exact hstep.rest_ne_nil hnil

/-- The three ways to go on exclude each other. -/
theorem unique {other : Nat} {instead : Stretch}
    (hstep : Consumes lexer stack done rest length stretch)
    (hother : Consumes lexer stack done rest other instead) :
    length = other ∧ stretch = instead := by
  cases hstep with
  | matched happlies =>
    cases hother with
    | matched hinstead =>
      obtain ⟨rfl, rfl⟩ := happlies.unique hinstead
      exact ⟨rfl, rfl⟩
    | newline hnone | other hnone => exact absurd hnone happlies.not_unmatched
  | newline hnone hhead =>
    cases hother with
    | matched hinstead => exact absurd hnone hinstead.not_unmatched
    | newline => exact ⟨rfl, rfl⟩
    | other _ hinstead hc => exact absurd (Option.some.inj (hinstead.symm.trans hhead)) hc
  | other hnone hhead hc =>
    cases hother with
    | matched hinstead => exact absurd hnone hinstead.not_unmatched
    | newline _ hinstead => exact absurd (Option.some.inj (hhead.symm.trans hinstead)) hc
    | other _ hinstead _ =>
      obtain rfl := Option.some.inj (hhead.symm.trans hinstead)
      exact ⟨rfl, rfl⟩

end Consumes

theorem Scan.unique {lexer : Lexer} {stack : Stack} {done rest : List Char}
    {scan other : List Stretch} (hscan : Scan lexer stack done rest scan)
    (hother : Scan lexer stack done rest other) : scan = other := by
  induction hscan generalizing other with
  | finish stack done =>
    cases hother with
    | finish => rfl
    | step hstep => exact absurd rfl hstep.rest_ne_nil
  | step hstep _ ih =>
    cases hother with
    | finish => exact absurd rfl hstep.rest_ne_nil
    | step hinstead hscan =>
      obtain ⟨rfl, rfl⟩ := hstep.unique hinstead
      rw [ih hscan]

theorem Scan.tiles {lexer : Lexer} {stack : Stack} {done rest : List Char} {scan : List Stretch}
    (hscan : Scan lexer stack done rest scan) :
    Tiles (byteLength done) rest (scan.flatMap (·.tokens)) := by
  induction hscan with
  | finish stack done => exact .nil _
  | @step stack done rest length stretch stretches hstep _ ih =>
    rw [Text.byteLength_append] at ih
    have htiles := hstep.tiles.append ih
    rwa [List.take_append_drop] at htiles

/-- The stretches end one after the other, and the last of them where the text ends. -/
theorem Scan.stops {lexer : Lexer} {stack : Stack} {done rest : List Char} {scan : List Stretch}
    (hscan : Scan lexer stack done rest scan) :
    (byteLength done :: scan.map (·.stop)).IsChain (· < ·) ∧
      (byteLength done :: scan.map (·.stop)).getLast? = some (byteLength (done ++ rest)) := by
  induction hscan with
  | finish stack done => simp
  | @step stack done rest length stretch stretches hstep _ ih =>
    obtain ⟨hchain, hlast⟩ := ih
    rw [← hstep.stop_eq] at hchain hlast
    rw [List.append_assoc, List.take_append_drop] at hlast
    have hlt : byteLength done < stretch.stop := by
      have hpos := hstep.tiles.byteLength_pos hstep.tokens_ne_nil
      rw [hstep.stop_eq, Text.byteLength_append]
      omega
    rw [List.map_cons, List.isChain_cons_cons, List.getLast?_cons_cons]
    exact ⟨⟨hlt, hchain⟩, hlast⟩

end LexTable
