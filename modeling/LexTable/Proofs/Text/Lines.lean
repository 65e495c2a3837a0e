import LexTable.Text.Line
import Mathlib.Data.List.Basic

/-!
# Lines and newlines

A text is a number of lines that end with a newline, and possibly a last one that does not. Cutting
it into lines undoes putting it together from them. In the encoded text the byte of a newline
stands for newlines only.
-/

namespace LexTable.Text

theorem splitLines_newline_cons (cs : List Char) :
    splitLines ('\n' :: cs) = ['\n'] :: splitLines cs := by
  rw [splitLines, if_pos rfl]

theorem splitLines_cons_of_ne {c : Char} (hc : c ≠ '\n') (cs : List Char) :
    splitLines (c :: cs) = (c :: (splitLines cs).headD []) :: (splitLines cs).tail := by
  rw [splitLines, if_neg hc]
  cases splitLines cs <;> rfl

/-- What has no newline becomes a part of the first line. -/
theorem splitLines_prepend {piece : List Char} (hpiece : '\n' ∉ piece) (hne : piece ≠ [])
    (cs : List Char) :
    splitLines (piece ++ cs) = (piece ++ (splitLines cs).headD []) :: (splitLines cs).tail := by
  induction piece with
  | nil => exact absurd rfl hne
  | cons c piece ih =>
    rw [List.mem_cons, not_or] at hpiece
    rw [List.cons_append, splitLines_cons_of_ne (Ne.symm hpiece.1)]
    by_cases hend : piece = []
    · simp [hend]
    · rw [ih hpiece.2 hend]
      rfl

theorem splitLines_of_not_mem {body : List Char} (hbody : '\n' ∉ body) (hne : body ≠ []) :
    splitLines body = [body] := by
  simpa [splitLines] using splitLines_prepend hbody hne []

theorem splitLines_append {body : List Char} (hbody : '\n' ∉ body) (rest : List Char) :
    splitLines (body ++ '\n' :: rest) = (body ++ ['\n']) :: splitLines rest := by
  by_cases hne : body = []
  · rw [hne]
    exact splitLines_newline_cons rest
  · rw [splitLines_prepend hbody hne, splitLines_newline_cons]
    rfl

/-- Induction on the lines of a text, of which only the last can lack its newline. -/
theorem linesInduction {motive : List Char → Prop} (nil : motive [])
    (last : ∀ body, '\n' ∉ body → body ≠ [] → motive body)
    (line : ∀ body rest, '\n' ∉ body → motive rest → motive (body ++ '\n' :: rest))
    (cs : List Char) : motive cs := by
  induction hlength : cs.length using Nat.strongRecOn generalizing cs with
  | ind length ih =>
    by_cases hmem : '\n' ∈ cs
    · obtain ⟨body, rest, rfl, hbody⟩ := List.eq_append_cons_of_mem hmem
      have hless : rest.length < length := by
        rw [← hlength, List.length_append, List.length_cons]
        omega
      exact line body rest hbody (ih rest.length hless rest rfl)
    · by_cases hne : cs = []
      · rw [hne]
        exact nil
      · exact last cs hmem hne

/-- A cut right after a newline does not change the lines. -/
theorem splitLines_append_newline (cs ds : List Char) :
    splitLines (cs ++ '\n' :: ds) = splitLines (cs ++ ['\n']) ++ splitLines ds := by
  induction cs using linesInduction with
  | nil => rw [List.nil_append, List.nil_append, splitLines_newline_cons]; rfl
  | last body hbody _ => rw [splitLines_append hbody, splitLines_append hbody]; rfl
  | line body rest hbody ih =>
    rw [List.append_assoc, List.cons_append, splitLines_append hbody, ih, List.append_assoc,
      List.cons_append, splitLines_append hbody]
    rfl

section flatMap

variable {α : Type} {line : α → List Char}
  (hline : ∀ a, ∃ body, line a = body ++ ['\n'] ∧ '\n' ∉ body)

include hline

/-- A text that is put together from whole lines is cut into them. -/
theorem splitLines_flatMap (as : List α) : splitLines (as.flatMap line) = as.map line := by
  induction as with
  | nil => rfl
  | cons a as ih =>
    obtain ⟨body, hwhole, hbody⟩ := hline a
    rw [List.flatMap_cons, List.map_cons, ← ih, hwhole, List.append_assoc, List.singleton_append]
    exact splitLines_append hbody _

/-- Whole lines, each of which can be read, are read from their bytes. -/
theorem bind_mapM_splitLines {β : Type} {read : List Char → Option β} {shown : α → β}
    (hread : ∀ a, read (line a) = some (shown a)) {as : List α} {text : String}
    (htext : text.toList = as.flatMap line) :
    (String.fromUTF8? text.toUTF8).bind (fun text ↦ (splitLines text.toList).mapM read) =
      some (as.map shown) := by
  have hdecode : String.fromUTF8? text.toUTF8 = some text := by
    unfold String.fromUTF8?
    rw [String.toUTF8_eq_toByteArray, dif_pos text.isValidUTF8]
    rfl
  have hlines : (as.map line).mapM read = some (as.map shown) := by
    clear htext
    induction as with
    | nil => rfl
    | cons a as ih => simp [List.mapM_cons, hread, ih]
  rw [hdecode, Option.bind_some, htext, splitLines_flatMap hline, hlines]

theorem count_newline_lines (as : List α) : (as.flatMap line).count '\n' = as.length := by
  induction as with
  | nil => rfl
  | cons a as ih =>
    obtain ⟨body, hwhole, hbody⟩ := hline a
    rw [List.flatMap_cons, List.count_append, ih, hwhole, List.count_append,
      List.count_eq_zero_of_not_mem hbody, List.length_cons]
    exact Nat.add_comm 1 _

end flatMap

/-- A byte of a newline encodes a newline, for the bytes of all longer encodings are not ASCII. -/
theorem count_newline_utf8EncodeChar (c : Char) :
    (String.utf8EncodeChar c).count 10 = if c = '\n' then 1 else 0 := by
  have hchar : c = '\n' ↔ c.val.toNat = 10 := by
    rw [Char.ext_iff, ← UInt32.toNat_inj]
    rfl
  have hbyte (n : Nat) : UInt8.ofNat n = 10 ↔ n % 256 = 10 := by
    rw [← UInt8.toNat_inj, UInt8.toNat_ofNat']
    rfl
  have hone (n : Nat) (ns : List UInt8) (hn : 128 ≤ n % 256) :
      (UInt8.ofNat n :: ns).count 10 = ns.count 10 := by
    rw [List.count_cons_of_ne]
    rw [ne_eq, hbyte]
    omega
  unfold String.utf8EncodeChar
  dsimp only
  split
  · next hsmall =>
    have hsame : UInt8.ofNat c.val.toNat = 10 ↔ c = '\n' := by
      rw [hbyte, hchar, Nat.mod_eq_of_lt (by omega)]
    simp only [List.count_singleton, beq_iff_eq, hsame]
  · next hlarge =>
    have hc : ¬ c = '\n' := by
      rw [hchar]
      omega
    rw [if_neg hc]
    split
    · rw [hone _ _ (by omega), hone _ _ (by omega), List.count_nil]
    · split
      · rw [hone _ _ (by omega), hone _ _ (by omega), hone _ _ (by omega), List.count_nil]
      · rw [hone _ _ (by omega), hone _ _ (by omega), hone _ _ (by omega), hone _ _ (by omega),
          List.count_nil]

theorem toList_toUTF8 (text : String) :
    text.toUTF8.data.toList = text.toList.flatMap String.utf8EncodeChar := by
  have hbytes : text.toUTF8 = text.toList.utf8Encode := by
    rw [← String.toByteArray_ofList, String.ofList_toList]
    rfl
  rw [hbytes, List.utf8Encode, List.data_toByteArray, List.toList_toArray]

theorem count_newline_flatMap (cs : List Char) :
    (cs.flatMap String.utf8EncodeChar).count 10 = cs.count '\n' := by
  induction cs with
  | nil => rfl
  | cons c cs ih =>
    rw [List.flatMap_cons, List.count_append, ih, count_newline_utf8EncodeChar, List.count_cons,
      Nat.add_comm]
    simp

theorem count_newline_toUTF8 (text : String) :
    text.toUTF8.data.toList.count 10 = text.toList.count '\n' := by
  rw [toList_toUTF8, count_newline_flatMap]

end LexTable.Text
