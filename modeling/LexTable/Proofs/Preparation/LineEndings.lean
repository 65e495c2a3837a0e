import LexTable.Lexer.Cursor
import LexTable.Proofs.Preparation.Steps

/-!
# Line endings

A line may end with a newline, with a carriage return, or with both in this order. Preparation makes
newlines of all of them, as if the pairs were replaced first and then the carriage returns that are
left. So texts that differ only in the style of their line endings are prepared to the same text.
-/

namespace LexTable.Preparation

section unifyNewlines

variable {cs : List Char}

theorem unifyNewlines_keep {c : Char} (hc : c ≠ '\r') (cs : List Char) :
    unifyNewlines (c :: cs) = c :: unifyNewlines cs := by
  rw [unifyNewlines]
  · rintro rest rfl
    exact absurd rfl hc
  · exact hc

theorem unifyNewlines_lone (hcs : cs.head? ≠ some '\n') :
    unifyNewlines ('\r' :: cs) = '\n' :: unifyNewlines cs := by
  rw [unifyNewlines]
  rintro rest rfl
  exact hcs rfl

theorem unifyNewlines_eq_self (hcs : '\r' ∉ cs) : unifyNewlines cs = cs := by
  induction cs with
  | nil => rfl
  | cons c cs ih =>
    rw [List.mem_cons, not_or] at hcs
    rw [unifyNewlines_keep (Ne.symm hcs.1), ih hcs.2]

end unifyNewlines

/-- Replaces each carriage return with a newline behind it by the newline. -/
def joinPairs : List Char → List Char
  | '\r' :: '\n' :: cs => '\n' :: joinPairs cs
  | c :: cs => c :: joinPairs cs
  | [] => []

/-- What a character becomes when carriage returns are replaced by newlines. -/
def newlineFor (c : Char) : Char :=
  if c = '\r' then '\n' else c

theorem newlineFor_ne (c : Char) : newlineFor c ≠ '\r' := by
  unfold newlineFor
  split
  · decide
  · assumption

/-- Pairs are replaced first, and then the carriage returns that are left. -/
theorem unifyNewlines_eq_map (cs : List Char) :
    unifyNewlines cs = (joinPairs cs).map newlineFor := by
  fun_induction joinPairs cs with
  | case1 cs ih =>
    rw [unifyNewlines, ih]
    rfl
  | case2 c cs hpair ih =>
    rw [List.map_cons, ← ih, newlineFor]
    split
    · next hc =>
      subst hc
      apply unifyNewlines_lone
      intro hhead
      obtain ⟨rest, hrest⟩ := List.head?_eq_some_iff.1 hhead
      exact hpair rest rfl hrest
    · next hc => exact unifyNewlines_keep hc cs
  | case3 => rfl

theorem return_not_mem_unifyNewlines (cs : List Char) : '\r' ∉ unifyNewlines cs := by
  rw [unifyNewlines_eq_map]
  intro hmem
  obtain ⟨c, -, hc⟩ := List.mem_map.1 hmem
  exact newlineFor_ne c hc

/-- The second text is the first one with line endings in other styles: each newline is written as
it is, with a carriage return before it, or as a carriage return, which no newline may follow. -/
inductive Restyles : List Char → List Char → Prop
  | nil : Restyles [] []
  | keep {c : Char} {cs ds : List Char} (hc : c ≠ '\n') (hrest : Restyles cs ds) :
      Restyles (c :: cs) (c :: ds)
  | newline {cs ds : List Char} (hrest : Restyles cs ds) : Restyles ('\n' :: cs) ('\n' :: ds)
  | pair {cs ds : List Char} (hrest : Restyles cs ds) : Restyles ('\n' :: cs) ('\r' :: '\n' :: ds)
  | lone {cs ds : List Char} (hds : ds.head? ≠ some '\n') (hrest : Restyles cs ds) :
      Restyles ('\n' :: cs) ('\r' :: ds)

namespace Restyles

variable {cs ds : List Char}

theorem unifyNewlines_eq (hrestyles : Restyles cs ds) (hcs : '\r' ∉ cs) :
    unifyNewlines ds = cs := by
  induction hrestyles with
  | nil => rfl
  | keep hc hrest ih =>
    rw [List.mem_cons, not_or] at hcs
    rw [unifyNewlines_keep (Ne.symm hcs.1), ih hcs.2]
  | newline hrest ih =>
    rw [unifyNewlines_keep (by decide), ih (List.not_mem_of_not_mem_cons hcs)]
  | pair hrest ih => rw [unifyNewlines, ih (List.not_mem_of_not_mem_cons hcs)]
  | lone hds hrest ih =>
    rw [unifyNewlines_lone hds, ih (List.not_mem_of_not_mem_cons hcs)]

/-- A mark is no line ending: the two texts begin with one or neither does. -/
theorem dropMark (hrestyles : Restyles cs ds) :
    Restyles (Preparation.dropMark cs) (Preparation.dropMark ds) := by
  cases hrestyles with
  | nil => exact .nil
  | @keep c cs ds hc hrest =>
    by_cases hmark : c = '\ufeff'
    · subst hmark
      exact hrest
    · have hhead (rest : List Char) : (c :: rest).head? ≠ some '\ufeff' :=
        fun hsame ↦ hmark (Option.some.inj hsame)
      rw [dropMark_eq_self (hhead cs), dropMark_eq_self (hhead ds)]
      exact .keep hc hrest
  | newline hrest => exact .newline hrest
  | pair hrest => exact .pair hrest
  | lone hds hrest => exact .lone hds hrest

end Restyles

/-- Texts that differ in the style of their line endings only are prepared to the same text, and so
have the same tokens. -/
theorem apply_restyled {source other : String} (hsource : '\r' ∉ source.toList)
    (hother : Restyles source.toList other.toList) :
    (∀ p : Preparation, p.apply other = p.apply source) ∧
      ∀ lexer : Lexer, lexer.tokenize (lexer.prepare other) =
        lexer.tokenize (lexer.prepare source) := by
  have hdropped : '\r' ∉ dropMark source.toList := mt mem_of_mem_dropMark hsource
  have hunified :
      unifyNewlines (dropMark other.toList) = unifyNewlines (dropMark source.toList) := by
    rw [hother.dropMark.unifyNewlines_eq hdropped, unifyNewlines_eq_self hdropped]
  have happly (p : Preparation) : p.apply other = p.apply source := by
    rw [apply, apply, hunified]
  refine ⟨happly, fun lexer ↦ ?_⟩
  rw [Lexer.prepare, Lexer.prepare, happly]

/-- Three newlines in a row may be written in three styles. -/
theorem apply_restyled_mixed : '\r' ∉ "\ufeffa\n\n\nb\n".toList ∧
    Restyles "\ufeffa\n\n\nb\n".toList "\ufeffa\r\r\n\nb\r".toList ∧
    apply {} "\ufeffa\r\r\n\nb\r" = apply {} "\ufeffa\n\n\nb\n" := by
  have hsource : '\r' ∉ "\ufeffa\n\n\nb\n".toList := by decide
  have hend : Restyles "b\n".toList "b\r".toList := .keep (by decide) (.lone (by decide) .nil)
  have hother : Restyles "\ufeffa\n\n\nb\n".toList "\ufeffa\r\r\n\nb\r".toList :=
    .keep (by decide) (.keep (by decide) (.lone (by decide) (.pair (.newline hend))))
  exact ⟨hsource, hother, (apply_restyled hsource hother).1 {}⟩

end LexTable.Preparation
