import LexTable.Proofs.Pattern.Literals

/-!
# Reading classes piece by piece

Inside brackets, too, the symbols of a pattern do not depend on what comes before them. A member of
a class that no dash follows stands for itself, and a dash between two characters makes a range,
which is an error if it begins behind its end.
-/

namespace LexTable

namespace Pattern

/-- The text has these symbols, at whichever place of a pattern it stands in a bracket. -/
def Inside (text : List Char) (symbols : List Symbol) : Prop :=
  ∀ offset, scanFrom offset 1 0 text = .ok symbols

/-- There is an error in the text, at whichever place of a pattern it stands. -/
def Fails (depth : Nat) (text : List Char) : Prop :=
  ∀ offset, ∃ error, scanFrom offset depth 0 text = .error error

theorem Inside.cons {c : Char} {cs rest : List Char} {symbol : Symbol} {symbols : List Symbol}
    (hsymbol : ∀ offset, nextInClass offset c (cs ++ rest) = .ok (symbol, cs.length + 1))
    (hdepth : symbol.depthAfter 1 = 1) (hrest : Inside rest symbols) :
    Inside (c :: cs ++ rest) (symbol :: symbols) := by
  intro offset
  have hnext : nextAt offset 1 c (cs ++ rest) = .ok (symbol, cs.length + 1) := hsymbol offset
  rw [scanFrom_cons hnext, hdepth, hrest]
  rfl

theorem Fails.cons {depth : Nat} {c : Char} (cs : List Char) {rest : List Char} (symbol : Symbol)
    (hsymbol : ∀ offset, nextAt offset depth c (cs ++ rest) = .ok (symbol, cs.length + 1))
    (hrest : Fails (symbol.depthAfter depth) rest) : Fails depth (c :: cs ++ rest) := by
  intro offset
  obtain ⟨error, herror⟩ := hrest (offset + 1 + cs.length)
  rw [scanFrom_cons (hsymbol offset), herror]
  exact ⟨error, rfl⟩

theorem fails_of_next {depth : Nat} {c : Char} {cs : List Char}
    (hnext : ∀ offset, ∃ error, nextAt offset depth c cs = .error error) :
    Fails depth (c :: cs) := by
  intro offset
  obtain ⟨error, herror⟩ := hnext offset
  rw [scanFrom_next, herror]
  exact ⟨error, rfl⟩

section classMember

variable {offset : Nat} {c a : Char} {cs : List Char} {width : Width}

/-- A member that no dash follows, or that only a dash follows, stands for itself. -/
theorem classMember_single (hfirst : classAtom c cs = .ok (.literal a, width))
    (hdash : ∀ d rest, (c :: cs).drop width = '-' :: d :: rest → d = ']')
    (hend : (c :: cs).drop width ≠ ['-']) :
    classMember offset c cs = .ok (.member (.single a), width) := by
  unfold classMember
  rw [hfirst]
  dsimp only [bind, Except.bind]
  split
  · rfl
  · rfl
  · next hdrop => exact absurd hdrop hend
  · next hnot _ hdrop => exact absurd (hdash _ _ hdrop) (by simpa using hnot)
  · rfl

/-- A dash between two characters makes a range of them, if they are in order. -/
theorem classMember_range {b d : Char} {rest : List Char} {further : Width}
    (hfirst : classAtom c cs = .ok (.literal a, width))
    (hdrop : (c :: cs).drop width = '-' :: d :: rest) (hd : d ≠ ']' ∧ d ≠ '-')
    (hlast : classAtom d rest = .ok (.literal b, further)) :
    classMember offset c cs =
      if a ≤ b then .ok (.member (.range a b), width + 1 + further)
      else .error (.reversedRange offset (offset + (width + 1 + further))) := by
  unfold classMember
  rw [hfirst]
  dsimp only [bind, Except.bind]
  rw [hdrop]
  split
  · next hsame => exact absurd (List.cons.inj (List.cons.inj hsame).2).1 hd.1
  · next hsame => exact absurd (List.cons.inj (List.cons.inj hsame).2).1 hd.2
  · next hsame => cases hsame
  · next hsame =>
    obtain ⟨rfl, rfl⟩ : d = _ ∧ rest = _ := by simpa using hsame
    rw [hlast]
  · next hnot => exact absurd rfl (hnot d rest)

end classMember

end Pattern

end LexTable
