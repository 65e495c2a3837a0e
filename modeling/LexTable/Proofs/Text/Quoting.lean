import LexTable.Pattern.Symbol
import LexTable.Text.Quoted

/-!
# Reading quoted texts

A quoted text lies in one line and says where it ends: no character of the text becomes a bare
quote, a bare backslash or a newline. So the text can be read back, also when more follows.
-/

namespace LexTable.Text

/-- The character that an escape stands for, and how many characters after the backslash it takes
up. -/
def readEscape? : List Char → Option (Char × Nat)
  | '"' :: _ => some ('"', 1)
  | '\\' :: _ => some ('\\', 1)
  | 'n' :: _ => some ('\n', 1)
  | 'r' :: _ => some ('\r', 1)
  | 't' :: _ => some ('\t', 1)
  | '0' :: _ => some ('\x00', 1)
  | 'u' :: '\x7b' :: cs =>
    let digits := cs.takeWhile (· != '\x7d')
    match Pattern.hexChar digits with
    | .ok c => some (c, digits.length + 3)
    | .error _ => none
  | _ => none

/-- The text up to the closing quote and what follows the quote, where the first `skip` characters
belong to the escape before. -/
def unquoteFrom : Nat → List Char → Option (List Char × List Char)
  | _, [] => none
  | skip + 1, _ :: cs => unquoteFrom skip cs
  | 0, c :: cs =>
    if c = '"' then
      some ([], cs)
    else if c = '\\' then do
      let (d, width) ← readEscape? cs
      let (text, rest) ← unquoteFrom width cs
      some (d :: text, rest)
    else do
      let (text, rest) ← unquoteFrom 0 cs
      some (c :: text, rest)

theorem unquoteFrom_length (skipped cs : List Char) :
    unquoteFrom skipped.length (skipped ++ cs) = unquoteFrom 0 cs := by
  induction skipped with
  | nil => rfl
  | cons c skipped ih => exact ih

theorem hexValue?_digitChar {digit : Nat} (hdigit : digit < 16) :
    Pattern.hexValue? digit.digitChar = some digit := by
  revert digit
  decide

/-- Digits and their value in base 16. -/
theorem exists_hexValues (n : Nat) : ∃ values,
    (Nat.toDigits 16 n).mapM Pattern.hexValue? = some values ∧
      values.foldl (fun n d ↦ 16 * n + d) 0 = n := by
  induction n using Nat.strongRecOn with
  | ind n ih =>
    rw [Nat.toDigits_eq_if (by decide)]
    split
    · next hsmall => exact ⟨[n], by simp [hexValue?_digitChar hsmall], by simp⟩
    · next hlarge =>
      obtain ⟨values, hvalues, hvalue⟩ := ih (n / 16) (by omega)
      have hlast := hexValue?_digitChar (Nat.mod_lt n (by decide : 16 > 0))
      refine ⟨values ++ [n % 16], ?_, ?_⟩
      · simp [List.mapM_append, hvalues, hlast]
      · rw [List.foldl_append, hvalue]
        exact Nat.div_add_mod n 16

theorem hexChar_toDigits (c : Char) : Pattern.hexChar (Nat.toDigits 16 c.toNat) = .ok c := by
  obtain ⟨values, hvalues, hvalue⟩ := exists_hexValues c.toNat
  have hvalid : c.toNat.isValidChar := c.valid
  unfold Pattern.hexChar
  rw [hvalues]
  simp [bind, Except.bind, hvalue, hvalid, Nat.toDigits_ne_nil]

theorem exists_digit_of_mem_toDigits {n : Nat} {c : Char} (hc : c ∈ Nat.toDigits 16 n) :
    ∃ digit < 16, c = Nat.digitChar digit := by
  induction n using Nat.strongRecOn with
  | ind n ih =>
    rw [Nat.toDigits_eq_if (by decide)] at hc
    split at hc
    · next hsmall => exact ⟨n, hsmall, List.mem_singleton.1 hc⟩
    · next hlarge =>
      rcases List.mem_append.1 hc with hfront | hlast
      · exact ih (n / 16) (by omega) hfront
      · exact ⟨n % 16, Nat.mod_lt n (by decide), List.mem_singleton.1 hlast⟩

theorem not_mem_toDigits {n : Nat} {c : Char} (hc : ∀ digit < 16, c ≠ Nat.digitChar digit) :
    c ∉ Nat.toDigits 16 n := by
  intro hmem
  obtain ⟨digit, hdigit, rfl⟩ := exists_digit_of_mem_toDigits hmem
  exact hc digit hdigit rfl

/-- The escape of a hidden character, after its backslash. -/
theorem readEscape?_hex (c : Char) (rest : List Char) :
    readEscape? ('u' :: '\x7b' :: Nat.toDigits 16 c.toNat ++ '\x7d' :: rest) =
      some (c, (Nat.toDigits 16 c.toNat).length + 3) := by
  have hdigits : ∀ d ∈ Nat.toDigits 16 c.toNat, (d != '\x7d') = true := by
    intro d hd
    rw [bne_iff_ne]
    rintro rfl
    exact not_mem_toDigits (by decide) hd
  have htake : (Nat.toDigits 16 c.toNat ++ '\x7d' :: rest).takeWhile (· != '\x7d') =
      Nat.toDigits 16 c.toNat := by
    rw [List.takeWhile_append_of_pos hdigits]
    simp
  simp only [List.cons_append, readEscape?, htake, hexChar_toDigits]

/-- What becomes of a character: it stays as it is, unless it is special, or it is escaped. -/
theorem escapeChar_eq (c : Char) :
    (escapeChar c = [c] ∧ c ≠ '"' ∧ c ≠ '\\' ∧ c ≠ '\n') ∨
      ∃ body, escapeChar c = '\\' :: body ∧ '\n' ∉ body ∧
        ∀ rest, readEscape? (body ++ rest) = some (c, body.length) := by
  unfold escapeChar
  split
  case h_7 hquote hbackslash hnewline _ _ _ =>
    split
    · refine .inr ⟨_, rfl, ?_, ?_⟩
      · have hdigits : '\n' ∉ Nat.toDigits 16 c.toNat := not_mem_toDigits (by decide)
        simp [hdigits]
      · intro rest
        have hread := readEscape?_hex c rest
        simpa using hread
    · exact .inl ⟨rfl, hquote, hbackslash, hnewline⟩
  all_goals exact .inr ⟨_, rfl, by decide, fun _ ↦ rfl⟩

theorem unquoteFrom_escapeChar (c : Char) (rest : List Char) :
    unquoteFrom 0 (escapeChar c ++ rest) =
      (unquoteFrom 0 rest).map fun found ↦ (c :: found.1, found.2) := by
  rcases escapeChar_eq c with ⟨hself, hquote, hbackslash, -⟩ | ⟨body, hbody, -, hread⟩
  · rw [hself, List.singleton_append, unquoteFrom, if_neg hquote, if_neg hbackslash]
    cases unquoteFrom 0 rest <;> rfl
  · rw [hbody, List.cons_append, unquoteFrom, if_neg (by decide), if_pos rfl, hread,
      ← unquoteFrom_length body rest]
    dsimp only [bind, Option.bind]
    cases unquoteFrom body.length (body ++ rest) <;> rfl

/-- A quoted text is read back, and what follows its closing quote is left. -/
theorem unquoteFrom_escaped (text rest : List Char) :
    unquoteFrom 0 (text.flatMap escapeChar ++ '"' :: rest) = some (text, rest) := by
  induction text with
  | nil => rfl
  | cons c text ih =>
    rw [List.flatMap_cons, List.append_assoc, unquoteFrom_escapeChar, ih]
    rfl

theorem newline_not_mem_quote (text : String) : '\n' ∉ (quote text).toList := by
  have hchars : '\n' ∉ text.toList.flatMap escapeChar := by
    rw [List.mem_flatMap]
    rintro ⟨c, -, hmem⟩
    rcases escapeChar_eq c with ⟨hself, -, -, hnewline⟩ | ⟨body, hbody, hclean, -⟩
    · rw [hself] at hmem
      exact hnewline (List.mem_singleton.1 hmem).symm
    · rw [hbody] at hmem
      exact hclean ((List.mem_cons.1 hmem).resolve_left (by decide))
  simp [quote, hchars]

end LexTable.Text
