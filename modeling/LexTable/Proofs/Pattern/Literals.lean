import LexTable.Pattern.Parse
import LexTable.Proofs.Regex.Runs
import LexTable.WordList

/-!
# Reading patterns piece by piece

Outside brackets the symbols of a pattern do not depend on what comes before them, so that a pattern
is read piece by piece. The text that stands for itself in a pattern is read as that text, whatever
characters it has.
-/

namespace LexTable.Pattern

/-- Characters of the symbol before are passed over. -/
theorem scanFrom_skip (offset depth : Nat) (cs rest : List Char) :
    scanFrom offset depth cs.length (cs ++ rest) = scanFrom (offset + cs.length) depth 0 rest := by
  induction cs generalizing offset with
  | nil => rfl
  | cons c cs ih =>
    have hnext := ih (offset + 1)
    rw [Nat.add_right_comm] at hnext
    exact hnext

/-- The symbol at the start of a text inside `depth` brackets. -/
def nextAt (offset depth : Nat) (c : Char) (cs : List Char) : Except Error (Symbol × Width) :=
  if depth = 0 then nextPlain c cs else nextInClass offset c cs

theorem scanFrom_next (offset depth : Nat) (c : Char) (cs : List Char) :
    scanFrom offset depth 0 (c :: cs) = nextAt offset depth c cs >>= fun found ↦
      (scanFrom (offset + 1) (found.1.depthAfter depth) (found.2 - 1) cs).map (found.1 :: ·) := by
  rw [scanFrom, nextAt]
  split <;> rfl

/-- A symbol is taken off the text, with all the characters that it takes up. -/
theorem scanFrom_cons {offset depth : Nat} {c : Char} {cs rest : List Char} {symbol : Symbol}
    (hsymbol : nextAt offset depth c (cs ++ rest) = .ok (symbol, cs.length + 1)) :
    scanFrom offset depth 0 (c :: cs ++ rest) =
      (scanFrom (offset + 1 + cs.length) (symbol.depthAfter depth) 0 rest).map (symbol :: ·) := by
  rw [List.cons_append, scanFrom_next, hsymbol, ← scanFrom_skip]
  rfl

theorem nextPlain_char {c : Char} (hc : isMeta c = false) (rest : List Char) :
    nextPlain c rest = .ok (.literal c, 1) := by
  unfold nextPlain
  split <;> first | rfl | (exfalso; revert hc; decide)

theorem nextPlain_escaped {c : Char} (hc : isMeta c) (rest : List Char) :
    nextPlain '\\' (c :: rest) = .ok (.literal c, 2) := by
  have hescapable : isEscapable c := by simp [isEscapable, hc]
  have hescape : escape (c :: rest) = .ok (.literal c, 1) := by
    unfold escape
    split <;> simp_all [isMeta]
  simp [nextPlain, hescape, bind, Except.bind]

/-- The text has these symbols, at whichever place of a pattern it stands outside brackets. -/
def Scans (text : List Char) (symbols : List Symbol) : Prop :=
  ∀ offset, scanFrom offset 0 0 text = .ok symbols

namespace Scans

variable {rest : List Char} {symbols : List Symbol}

theorem scan_eq {text : List Char} (hscans : Scans text symbols) : scan text = .ok symbols :=
  hscans 0

theorem nil : Scans [] [] := by
  intro offset
  rfl

/-- A symbol that does not open or close a bracket is taken off the text. -/
theorem cons {c : Char} (cs : List Char) {symbol : Symbol}
    (hsymbol : nextPlain c (cs ++ rest) = .ok (symbol, cs.length + 1))
    (hdepth : symbol.depthAfter 0 = 0) (hrest : Scans rest symbols) :
    Scans (c :: cs ++ rest) (symbol :: symbols) := by
  intro offset
  have hnext : nextAt offset 0 c (cs ++ rest) = .ok (symbol, cs.length + 1) := hsymbol
  rw [scanFrom_cons hnext, hdepth, hrest]
  rfl

theorem char {c : Char} (hc : isMeta c = false) (hrest : Scans rest symbols) :
    Scans (c :: rest) (.literal c :: symbols) :=
  cons [] (nextPlain_char hc rest) rfl hrest

theorem escaped {c : Char} (hc : isMeta c) (hrest : Scans rest symbols) :
    Scans ('\\' :: c :: rest) (.literal c :: symbols) :=
  cons [c] (nextPlain_escaped hc rest) rfl hrest

theorem literal (text : List Char) (hrest : Scans rest symbols) :
    Scans (WordList.literal text ++ rest) (text.map .literal ++ symbols) := by
  induction text with
  | nil => exact hrest
  | cons c cs ih =>
    rw [WordList.literal, List.flatMap_cons, List.append_assoc]
    split
    · next hc => exact escaped hc ih
    · next hc => exact char (by simpa using hc) ih

theorem bar (hrest : Scans rest symbols) : Scans ('|' :: rest) (.bar :: symbols) :=
  cons [] rfl rfl hrest

theorem close (hrest : Scans rest symbols) : Scans (')' :: rest) (.close :: symbols) :=
  cons [] rfl rfl hrest

theorem openPlain (hrest : Scans rest symbols) :
    Scans ('(' :: '?' :: ':' :: rest) (.openPlain [] :: symbols) :=
  cons ['?', ':'] rfl rfl hrest

/-- An assertion of a word boundary ends before what cannot be the name of a side. -/
theorem wordBoundary (hhead : rest.head? ≠ some '\x7b') (hrest : Scans rest symbols) :
    Scans ('\\' :: 'b' :: rest) (.look .wordBoundary :: symbols) := by
  refine cons ['b'] ?_ rfl hrest
  have hside : boundaryEscape rest = .ok (.look .wordBoundary, 0) := by
    unfold boundaryEscape
    split <;> simp_all
  have hescape : escape ('b' :: rest) = .ok (.look .wordBoundary, 1) := by
    simp [escape, hside, Except.map]
  simp [nextPlain, hescape, bind, Except.bind]

end Scans

namespace Branches

/-- What the current branch has so far, in the order of the text. -/
def items (b : Branches) : List Regex :=
  (b.last.toList ++ b.before).reverse

theorem branch_eq (b : Branches) : b.branch = Regex.seqAll b.items := rfl

theorem items_bar (b : Branches) : b.bar.items = [] := rfl

theorem finished_bar (b : Branches) : b.bar.finished = b.branch :: b.finished := rfl

theorem regex_eq (b : Branches) : b.regex = Regex.altAll (b.finished.reverse ++ [b.branch]) := by
  rw [regex, List.reverse_cons]

def addAll (b : Branches) (rs : List Regex) : Branches :=
  rs.foldl add b

theorem items_addAll (b : Branches) (rs : List Regex) : (b.addAll rs).items = b.items ++ rs := by
  induction rs generalizing b with
  | nil => simp [addAll]
  | cons r rs ih =>
    have hadd : (b.add r).items = b.items ++ [r] := by simp [items, add]
    rw [addAll, List.foldl_cons, ← addAll, ih, hadd, List.append_assoc, List.singleton_append]

theorem finished_addAll (b : Branches) (rs : List Regex) :
    (b.addAll rs).finished = b.finished := by
  induction rs generalizing b with
  | nil => rfl
  | cons r rs ih => exact ih (b.add r)

end Branches

theorem State.foldlM_read_literals (state : State) (hcase : state.flags.ignoreCase = false)
    (text : List Char) : (text.map Symbol.literal).foldlM State.read state =
      .ok { state with here := state.here.addAll (Regex.characters text) } := by
  induction text generalizing state with
  | nil => rfl
  | cons c cs ih =>
    have hread : state.read (.literal c) = .ok (state.add (.chars (.single c))) := by
      simp [State.read, Flags.chars, hcase]
    rw [List.map_cons, List.foldlM_cons, hread]
    exact ih (state.add (.chars (.single c))) hcase

end LexTable.Pattern
