import LexTable.Proofs.Lexer.Tiling

/-!
# Lexers that agree

Two lexers agree on a number of pulls from a cursor if each of these pulls gives the same token
and leaves the same cursor with both. Then the runs show the same tokens, places and states. Lexers
that start in the same state and have the same rules in every state agree on all pulls.
-/

namespace LexTable

/-- What a pull shows: its token, or none at the end, and the place and the state after it. -/
structure Showing where
  token? : Option Token
  position : Nat
  state : String
  deriving DecidableEq

namespace Cursor

/-- What the next `count` pulls show. -/
def showings (lexer : Lexer) : Nat → Cursor → List Showing
  | 0, _ => []
  | count + 1, cursor =>
    let (token?, after) := cursor.pull lexer
    ⟨token?, after.position, after.state lexer⟩ :: showings lexer count after

/-- The next `count` pulls with `lexer` are the same with `other`. -/
def Agree (lexer other : Lexer) : Nat → Cursor → Prop
  | 0, _ => True
  | count + 1, cursor =>
    cursor.pull other = cursor.pull lexer ∧ Agree lexer other count (cursor.pull lexer).2

namespace Agree

variable {lexer other : Lexer} {count : Nat} {cursor : Cursor}

theorem of_pull_eq (hpull : ∀ cursor : Cursor, cursor.pull other = cursor.pull lexer)
    (count : Nat) (cursor : Cursor) : Agree lexer other count cursor := by
  induction count generalizing cursor with
  | zero => exact trivial
  | succ count ih => exact ⟨hpull cursor, ih _⟩

theorem pulls_eq (hagree : Agree lexer other count cursor) :
    Cursor.pulls other count cursor = Cursor.pulls lexer count cursor := by
  induction count generalizing cursor with
  | zero => rfl
  | succ count ih =>
    obtain ⟨hpull, hrest⟩ := hagree
    unfold Cursor.pulls
    rw [hpull]
    cases hnext : cursor.pull lexer with
    | mk token? after =>
      rw [hnext] at hrest
      cases token? with
      | none => rfl
      | some token => exact congrArg ((token, after) :: ·) (ih hrest)

theorem after_eq (hagree : Agree lexer other count cursor) :
    cursor.after other count = cursor.after lexer count := by
  induction count generalizing cursor with
  | zero => rfl
  | succ count ih =>
    obtain ⟨hpull, hrest⟩ := hagree
    unfold Cursor.after
    rw [hpull]
    exact ih hrest

theorem showings_eq (hinitial : other.initial = lexer.initial)
    (hagree : Agree lexer other count cursor) :
    cursor.showings other count = cursor.showings lexer count := by
  induction count generalizing cursor with
  | zero => rfl
  | succ count ih =>
    obtain ⟨hpull, hrest⟩ := hagree
    unfold showings
    rw [hpull]
    dsimp only
    rw [ih hrest, Cursor.state, Cursor.state, hinitial]

end Agree

end Cursor

namespace Lexer

/-- Agreement on as many pulls as a text has characters is enough for all of its tokens. -/
theorem tokenize_eq_of_agree {lexer other : Lexer} {text : String}
    (hagree : Cursor.Agree lexer other text.length (Cursor.start text)) :
    other.tokenize text = lexer.tokenize text :=
  congrArg (List.map Prod.fst) hagree.pulls_eq

/-- The lexers start in the same state and have the same rules in every state. -/
structure SameRules (lexer other : Lexer) : Prop where
  initial_eq : other.initial = lexer.initial
  rulesOf_eq : ∀ name, other.rulesOf name = lexer.rulesOf name

namespace SameRules

variable {lexer other : Lexer}

theorem pull_eq (hsame : lexer.SameRules other) (cursor : Cursor) :
    cursor.pull other = cursor.pull lexer := by
  have hstep : cursor.step other = cursor.step lexer := by
    unfold Cursor.step Cursor.state
    rw [hsame.initial_eq, hsame.rulesOf_eq]
  unfold Cursor.pull Cursor.fill
  rw [hstep]

theorem agree (hsame : lexer.SameRules other) (count : Nat) (cursor : Cursor) :
    Cursor.Agree lexer other count cursor :=
  .of_pull_eq hsame.pull_eq count cursor

theorem showings_eq (hsame : lexer.SameRules other) (count : Nat) (cursor : Cursor) :
    cursor.showings other count = cursor.showings lexer count :=
  (hsame.agree count cursor).showings_eq hsame.initial_eq

theorem tokenize_eq (hsame : lexer.SameRules other) (text : String) :
    other.tokenize text = lexer.tokenize text :=
  tokenize_eq_of_agree (hsame.agree _ _)

end SameRules

end Lexer

end LexTable
