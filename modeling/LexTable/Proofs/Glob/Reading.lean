import LexTable.Glob
import Mathlib.Data.List.Basic

/-!
# How a file name pattern reads

What a file name pattern means in a shell, without the regular expression that it is spelled out as:
the pieces that it consists of and the names that these fit. A pattern either consists of pieces, or
a bracket in it is opened and never closed.
-/

namespace LexTable.Glob

/-- What a bracket lists: characters and inclusive ranges of them. -/
inductive Member where
  | single (c : Char)
  | range (first last : Char)
  deriving DecidableEq

/-- The members between brackets, read from left to right: a dash between two characters makes a
range of them, and every other character stands for itself. -/
def membersOf : List Char → List Member
  | first :: '-' :: last :: cs => .range first last :: membersOf cs
  | c :: cs => .single c :: membersOf cs
  | [] => []

def Member.Holds : Member → Char → Prop
  | single d, c => c = d
  | range first last, c => first ≤ c ∧ c ≤ last

/-- The range begins behind its end. -/
def Member.Reversed : Member → Prop
  | single _ => False
  | range first last => last < first

inductive Piece where
  | anyText
  | anyChar
  | char (c : Char)
  | bracket (negated : Bool) (body : List Char)
  deriving DecidableEq

/-- The characters that negate a bracket if they stand first in it. -/
def signs : List Char := ['!', '^']

/-- The pieces of a pattern. The first member of a bracket may be a closing bracket. -/
inductive Reads : List Char → List Piece → Prop
  | nil : Reads [] []
  | anyText {cs : List Char} {pieces : List Piece} (hrest : Reads cs pieces) :
      Reads ('*' :: cs) (.anyText :: pieces)
  | anyChar {cs : List Char} {pieces : List Piece} (hrest : Reads cs pieces) :
      Reads ('?' :: cs) (.anyChar :: pieces)
  | char {c : Char} {cs : List Char} {pieces : List Piece} (hc : c ∉ ['*', '?', '['])
      (hrest : Reads cs pieces) : Reads (c :: cs) (.char c :: pieces)
  | bracket {first : Char} {more cs : List Char} {pieces : List Piece} (hfirst : first ∉ signs)
      (hmore : ']' ∉ more) (hrest : Reads cs pieces) :
      Reads ('[' :: first :: more ++ ']' :: cs) (.bracket false (first :: more) :: pieces)
  | negated {sign first : Char} {more cs : List Char} {pieces : List Piece} (hsign : sign ∈ signs)
      (hmore : ']' ∉ more) (hrest : Reads cs pieces) :
      Reads ('[' :: sign :: first :: more ++ ']' :: cs) (.bracket true (first :: more) :: pieces)

/-- What follows the sign of a bracket, if it has one. -/
def afterSign (cs : List Char) : List Char :=
  if cs.head?.any signs.contains then cs.tail else cs

/-- A bracket is opened behind some pieces and has no end. -/
def Unterminated (glob : List Char) : Prop :=
  ∃ front pieces tail, glob = front ++ '[' :: tail ∧ Reads front pieces ∧
    ']' ∉ (afterSign tail).tail

/-- The text is one of those that the piece stands for. -/
inductive Piece.Covers : Piece → List Char → Prop
  | anyText {cs : List Char} (hcs : '\n' ∉ cs) : Covers .anyText cs
  | anyChar {c : Char} (hc : c ≠ '\n') : Covers .anyChar [c]
  | char (c : Char) : Covers (.char c) [c]
  | bracket {negated : Bool} {body : List Char} {c : Char}
      (hc : (∃ m ∈ membersOf body, m.Holds c) ↔ negated = false) :
      Covers (.bracket negated body) [c]

/-- The text falls into texts that the pieces stand for. -/
inductive Fits : List Piece → List Char → Prop
  | nil : Fits [] []
  | cons {piece : Piece} {pieces : List Piece} {cs ds : List Char} (hpiece : piece.Covers cs)
      (hpieces : Fits pieces ds) : Fits (piece :: pieces) (cs ++ ds)

/-- The pattern that a piece is spelled out as. -/
def Piece.pattern : Piece → List Char
  | anyText => ['.', '*']
  | anyChar => ['.']
  | char c => WordList.literal [c]
  | bracket negated body =>
    '[' :: (if negated then ['^'] else []) ++ body.flatMap member ++ [']']

section spellOut

variable {cs more members : List Char}

theorem member_ne_nil (c : Char) : member c ≠ [] := by
  unfold member
  split <;> exact List.cons_ne_nil _ _

/-- With its first member a bracket may be closed. -/
theorem append_member_closes (hmembers : members ≠ []) (c : Char) :
    members ++ member c ≠ [] ∧ members ++ member c ≠ ['^'] := by
  have hlength := List.length_pos_iff.2 hmembers
  have hmember := List.length_pos_iff.2 (member_ne_nil c)
  constructor
  · exact List.append_ne_nil_of_left_ne_nil hmembers _
  · intro hsign
    have hone := congrArg List.length hsign
    rw [List.length_append, List.length_singleton] at hone
    omega

theorem closesBracket_iff (c : Char) (members : List Char) :
    closesBracket c members ↔ c = ']' ∧ members ≠ [] ∧ members ≠ ['^'] := by
  simp [closesBracket, and_assoc]

/-- From its second member on a bracket goes on to the next closing bracket. -/
theorem spellOut_body (hmore : ']' ∉ more) (hmembers : members ≠ [] ∧ members ≠ ['^']) :
    spellOut (some members) (more ++ ']' :: cs) =
      (spellOut none cs).map fun body ↦ '[' :: (members ++ more.flatMap member ++ ']' :: body) := by
  induction more generalizing members with
  | nil =>
    rw [List.nil_append, spellOut, if_pos ((closesBracket_iff _ _).2 ⟨rfl, hmembers⟩)]
    simp
  | cons c more ih =>
    rw [List.mem_cons, not_or] at hmore
    have hopen : ¬ closesBracket c members :=
      fun hcloses ↦ hmore.1 ((closesBracket_iff _ _).1 hcloses).1.symm
    rw [List.cons_append, spellOut, if_neg hopen, ih hmore.2 (append_member_closes hmembers.1 c)]
    simp

theorem spellOut_unclosed (hmore : ']' ∉ more) : spellOut (some members) more = none := by
  induction more generalizing members with
  | nil => rfl
  | cons c more ih =>
    rw [List.mem_cons, not_or] at hmore
    have hopen : ¬ closesBracket c members :=
      fun hcloses ↦ hmore.1 ((closesBracket_iff _ _).1 hcloses).1.symm
    rw [spellOut, if_neg hopen]
    exact ih hmore.2

/-- The first member does not close a bracket. -/
theorem spellOut_first (hmembers : members = [] ∨ members = ['^']) (c : Char) :
    spellOut (some members) (c :: cs) = spellOut (some (members ++ member c)) cs := by
  have hopen : ¬ closesBracket c members := by
    rw [closesBracket_iff]
    rintro ⟨-, hne, hsign⟩
    exact hmembers.elim hne hsign
  rw [spellOut, if_neg hopen]

theorem spellOut_sign {sign : Char} (hsign : sign ∈ signs) :
    spellOut none ('[' :: sign :: cs) = spellOut (some ['^']) cs := by
  rcases List.mem_cons.1 hsign with rfl | hsign
  · rw [spellOut]
  · obtain rfl := List.mem_singleton.1 hsign
    rfl

theorem spellOut_plain (hcs : ∀ c ∈ cs.head?, c ∉ signs) :
    spellOut none ('[' :: cs) = spellOut (some []) cs := by
  rw [spellOut]
  rintro rest rfl
  exact hcs '!' rfl (by decide)

theorem spellOut_char {c : Char} (hc : c ∉ ['*', '?', '[']) :
    spellOut none (c :: cs) = (spellOut none cs).map (WordList.literal [c] ++ ·) := by
  simp only [List.mem_cons, List.not_mem_nil, or_false, not_or] at hc
  obtain ⟨hstar, hmark, hopen⟩ := hc
  rw [spellOut]
  · exact hstar
  · exact hmark
  · exact fun _ hc _ ↦ hopen hc
  · exact hopen

/-- Pieces are spelled out one after the other. -/
theorem Reads.spellOut_append {front : List Char} {pieces : List Piece}
    (hreads : Reads front pieces) (rest : List Char) :
    spellOut none (front ++ rest) =
      (spellOut none rest).map (pieces.flatMap Piece.pattern ++ ·) := by
  induction hreads with
  | nil => simp
  | anyText hrest ih =>
    rw [List.cons_append, spellOut, ih, Option.map_map]
    rfl
  | anyChar hrest ih =>
    rw [List.cons_append, spellOut, ih, Option.map_map]
    rfl
  | char hc hrest ih =>
    rw [List.cons_append, spellOut_char hc, ih, Option.map_map]
    simp [Piece.pattern, Function.comp_def]
  | @bracket first more cs pieces hfirst hmore hrest ih =>
    have hmember : member first ≠ [] ∧ member first ≠ ['^'] := by
      refine ⟨member_ne_nil first, ?_⟩
      unfold member
      split
      · simp
      · rintro hsign
        exact hfirst (by simp [List.cons.inj hsign, signs])
    rw [List.append_assoc, List.cons_append, List.cons_append, List.cons_append,
      spellOut_plain (by simpa using hfirst), spellOut_first (.inl rfl), List.nil_append,
      spellOut_body hmore hmember, ih, Option.map_map]
    simp [Piece.pattern, Function.comp_def]
  | @negated sign first more cs pieces hsign hmore hrest ih =>
    rw [List.append_assoc, List.cons_append, List.cons_append, List.cons_append, List.cons_append,
      spellOut_sign hsign, spellOut_first (.inr rfl),
      spellOut_body hmore (append_member_closes (List.cons_ne_nil _ _) first), ih, Option.map_map]
    simp [Piece.pattern, Function.comp_def]

theorem Reads.spellOut_eq {glob : List Char} {pieces : List Piece} (hreads : Reads glob pieces) :
    spellOut none glob = some (pieces.flatMap Piece.pattern) := by
  have hall := hreads.spellOut_append []
  rw [List.append_nil] at hall
  rw [hall, spellOut, Option.map_some, List.append_nil]

theorem spellOut_bracket_unclosed {tail : List Char} (htail : ']' ∉ (afterSign tail).tail) :
    spellOut none ('[' :: tail) = none := by
  rcases tail with _ | ⟨c, cs⟩
  · rfl
  by_cases hc : c ∈ signs
  · have hafter : afterSign (c :: cs) = cs := by simp [afterSign, hc]
    rw [hafter] at htail
    rw [spellOut_sign hc]
    rcases cs with _ | ⟨first, more⟩
    · rfl
    · rw [spellOut_first (.inr rfl)]
      exact spellOut_unclosed htail
  · have hafter : afterSign (c :: cs) = c :: cs := by simp [afterSign, hc]
    rw [hafter] at htail
    rw [spellOut_plain (by simpa using hc), spellOut_first (.inl rfl)]
    exact spellOut_unclosed htail

theorem Unterminated.spellOut_eq {glob : List Char} (hopen : Unterminated glob) :
    spellOut none glob = none := by
  obtain ⟨front, pieces, tail, rfl, hreads, htail⟩ := hopen
  rw [hreads.spellOut_append, spellOut_bracket_unclosed htail, Option.map_none]

end spellOut

/-- A piece before a pattern changes nothing about how it ends. -/
theorem reads_or_unterminated_append (front : List Char) {piece : Piece}
    (hpiece : ∀ {cs : List Char} {pieces : List Piece}, Reads cs pieces →
      Reads (front ++ cs) (piece :: pieces)) {rest : List Char}
    (hrest : (∃ pieces, Reads rest pieces) ∨ Unterminated rest) :
    (∃ pieces, Reads (front ++ rest) pieces) ∨ Unterminated (front ++ rest) := by
  rcases hrest with ⟨pieces, hreads⟩ | ⟨before, pieces, tail, rfl, hreads, htail⟩
  · exact .inl ⟨piece :: pieces, hpiece hreads⟩
  · exact .inr ⟨front ++ before, piece :: pieces, tail, by rw [List.append_assoc], hpiece hreads,
      htail⟩

/-- A pattern that is not read piece by piece has a bracket without an end. -/
theorem reads_or_unterminated (glob : List Char) :
    (∃ pieces, Reads glob pieces) ∨ Unterminated glob := by
  induction hlength : glob.length using Nat.strongRecOn generalizing glob with
  | ind length ih =>
    have hrest (rest : List Char) (hlt : rest.length < glob.length) :
        (∃ pieces, Reads rest pieces) ∨ Unterminated rest :=
      ih rest.length (hlength ▸ hlt) rest rfl
    rcases glob with _ | ⟨c, cs⟩
    · exact .inl ⟨[], .nil⟩
    have hcs := hrest cs (Nat.lt_succ_self _)
    by_cases hopen : c = '['
    · subst hopen
      by_cases htail : ']' ∉ (afterSign cs).tail
      · -- nothing closes the bracket
        exact .inr ⟨[], [], cs, rfl, .nil, htail⟩
      rw [not_not] at htail
      rcases hafter : afterSign cs with _ | ⟨first, body⟩
      · rw [hafter] at htail
        cases htail
      rw [hafter, List.tail_cons] at htail
      obtain ⟨more, rest, rfl, hmore⟩ := List.eq_append_cons_of_mem htail
      unfold afterSign at hafter
      split at hafter
      · next hsign =>
        -- the bracket has a sign
        obtain ⟨sign, cs, rfl⟩ : ∃ sign tail, cs = sign :: tail := by
          cases cs with
          | nil => cases hsign
          | cons sign tail => exact ⟨sign, tail, rfl⟩
        obtain rfl : cs = first :: (more ++ ']' :: rest) := hafter
        have hshort := hrest rest (by simp; omega)
        have hsigns : sign ∈ signs := by simpa using hsign
        have hpiece {cs : List Char} {pieces : List Piece} (hreads : Reads cs pieces) :
            Reads ('[' :: sign :: first :: (more ++ [']']) ++ cs)
              (.bracket true (first :: more) :: pieces) := by
          simpa using @Reads.negated sign first more cs pieces hsigns hmore hreads
        simpa using reads_or_unterminated_append _ hpiece hshort
      · next hsign =>
        -- the bracket has no sign
        subst hafter
        have hshort := hrest rest (by simp; omega)
        have hpiece {cs : List Char} {pieces : List Piece} (hreads : Reads cs pieces) :
            Reads ('[' :: first :: (more ++ [']']) ++ cs)
              (.bracket false (first :: more) :: pieces) := by
          simpa using @Reads.bracket first more cs pieces (by simpa using hsign) hmore hreads
        simpa using reads_or_unterminated_append _ hpiece hshort
    · by_cases hstar : c = '*'
      · subst hstar
        exact reads_or_unterminated_append ['*'] .anyText hcs
      by_cases hmark : c = '?'
      · subst hmark
        exact reads_or_unterminated_append ['?'] .anyChar hcs
      · have hc : c ∉ ['*', '?', '['] := by simp [hopen, hstar, hmark]
        exact reads_or_unterminated_append [c] (.char hc) hcs

/-- The end of a bracket is the first closing bracket behind its first member. -/
theorem body_unique {more others cs ds : List Char} (hmore : ']' ∉ more) (hothers : ']' ∉ others)
    (hsame : more ++ ']' :: cs = others ++ ']' :: ds) : more = others ∧ cs = ds := by
  induction more generalizing others with
  | nil =>
    cases others with
    | nil => exact ⟨rfl, (List.cons.inj hsame).2⟩
    | cons d others => exact absurd (List.cons.inj hsame).1 fun hd ↦ hothers (by simp [← hd])
  | cons c more ih =>
    cases others with
    | nil => exact absurd (List.cons.inj hsame).1 fun hc ↦ hmore (by simp [hc])
    | cons d others =>
      obtain ⟨rfl, htail⟩ := List.cons.inj hsame
      rw [List.mem_cons, not_or] at hmore hothers
      obtain ⟨rfl, rfl⟩ := ih hmore.2 hothers.2 htail
      exact ⟨rfl, rfl⟩

/-- A pattern reads in one way only: its first character says which piece comes first. -/
theorem Reads.unique {glob : List Char} {pieces others : List Piece} (hreads : Reads glob pieces)
    (hothers : Reads glob others) : pieces = others := by
  have hspecial {c d : Char} (hd : d ∉ ['*', '?', '[']) (hc : c ∈ ['*', '?', '[']) : c ≠ d :=
    fun hsame ↦ hd (hsame ▸ hc)
  induction hreads generalizing others with
  | nil =>
    generalize hglob : [] = glob at hothers
    cases hothers with
    | nil => rfl
    | _ => cases hglob
  | @anyText cs pieces hrest ih =>
    generalize hglob : '*' :: cs = glob at hothers
    cases hothers with
    | nil => cases hglob
    | anyText hreads =>
      obtain rfl := (List.cons.inj hglob).2
      rw [ih hreads]
    | char hc hreads => exact absurd (List.cons.inj hglob).1 (hspecial hc (by decide))
    | _ => exact absurd (List.cons.inj hglob).1 (by decide)
  | @anyChar cs pieces hrest ih =>
    generalize hglob : '?' :: cs = glob at hothers
    cases hothers with
    | nil => cases hglob
    | anyChar hreads =>
      obtain rfl := (List.cons.inj hglob).2
      rw [ih hreads]
    | char hc hreads => exact absurd (List.cons.inj hglob).1 (hspecial hc (by decide))
    | _ => exact absurd (List.cons.inj hglob).1 (by decide)
  | @char c cs pieces hc hrest ih =>
    generalize hglob : c :: cs = glob at hothers
    cases hothers with
    | nil => cases hglob
    | char hd hreads =>
      obtain ⟨rfl, rfl⟩ := List.cons.inj hglob
      rw [ih hreads]
    | _ => exact absurd (List.cons.inj hglob).1.symm (hspecial hc (by decide))
  | @bracket first more cs pieces hfirst hmore hrest ih =>
    generalize hglob : '[' :: first :: more ++ ']' :: cs = glob at hothers
    cases hothers with
    | nil => cases hglob
    | bracket hsecond hend hreads =>
      obtain ⟨rfl, htail⟩ := List.cons.inj (List.cons.inj hglob).2
      obtain ⟨rfl, rfl⟩ := body_unique hmore hend htail
      rw [ih hreads]
    | negated hsign hend hreads =>
      obtain ⟨rfl, -⟩ := List.cons.inj (List.cons.inj hglob).2
      exact absurd hsign hfirst
    | char hc hreads => exact absurd (List.cons.inj hglob).1 (hspecial hc (by decide))
    | _ => exact absurd (List.cons.inj hglob).1 (by decide)
  | @negated sign first more cs pieces hsign hmore hrest ih =>
    generalize hglob : '[' :: sign :: first :: more ++ ']' :: cs = glob at hothers
    cases hothers with
    | nil => cases hglob
    | bracket hsecond hend hreads =>
      obtain ⟨rfl, -⟩ := List.cons.inj (List.cons.inj hglob).2
      exact absurd hsign hsecond
    | negated hother hend hreads =>
      obtain ⟨rfl, htail⟩ := List.cons.inj (List.cons.inj hglob).2
      obtain ⟨rfl, hbody⟩ := List.cons.inj htail
      obtain ⟨rfl, rfl⟩ := body_unique hmore hend hbody
      rw [ih hreads]
    | char hc hreads => exact absurd (List.cons.inj hglob).1 (hspecial hc (by decide))
    | _ => exact absurd (List.cons.inj hglob).1 (by decide)

end LexTable.Glob
