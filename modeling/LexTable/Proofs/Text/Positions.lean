import LexTable.Proofs.Text.Lines
import Mathlib.Algebra.Order.BigOperators.Group.List
import Mathlib.Algebra.Order.Ring.Nat
import Mathlib.Data.List.DropRight

/-!
# Positions in lines

A position of a text lies in one of its lines, which the newlines around it tell: the line begins
behind the last newline before the position and ends with the first one from there on. The lookup
finds this line for all positions of the text and for no other, and no two positions have the same
place.
-/

namespace LexTable.Text

/-- What a text has after its last newline. -/
def lastLine (cs : List Char) : List Char :=
  cs.rtakeWhile (· != '\n')

/-- A line may begin after the text: it is empty, or its last character is a newline. -/
def EndsLine (cs : List Char) : Prop :=
  ∀ c ∈ cs.getLast?, c = '\n'

/-- A line with the text before and after it. Only at the end of a text it can lack its newline. -/
inductive IsLine : List Char → List Char → List Char → Prop
  | ended {before body after : List Char} (hbefore : EndsLine before) (hbody : '\n' ∉ body) :
      IsLine before (body ++ ['\n']) after
  | unended {before body : List Char} (hbefore : EndsLine before) (hbody : '\n' ∉ body)
      (hne : body ≠ []) : IsLine before body []

/-- The place of a position in a text. -/
structure Lies (text : String) (position : Nat) (found : LinePosition) : Prop where
  exists_line : ∃ before after, text.toList = before ++ found.line.toList ++ after ∧
    IsLine before found.line.toList after ∧ found.number = before.count '\n' + 1 ∧
    position = byteLength before + found.column
  column_lt : found.column < found.line.utf8ByteSize

/-- How many bytes the lines before the one of the given number have. -/
def bytesBefore (text : String) (number : Nat) : Nat :=
  (((lines text).take (number - 1)).map String.utf8ByteSize).sum

section lines

variable {cs before line after : List Char}

theorem endsLine_nil : EndsLine [] := by
  rintro c ⟨⟩

theorem endsLine_concat (cs : List Char) : EndsLine (cs ++ ['\n']) := by
  intro c hc
  rw [List.getLast?_concat] at hc
  exact (Option.mem_some_iff.1 hc).symm

theorem EndsLine.eq_nil_or_concat (hcs : EndsLine cs) :
    cs = [] ∨ ∃ front, cs = front ++ ['\n'] := by
  rcases cs.eq_nil_or_concat' with rfl | ⟨front, c, rfl⟩
  · exact .inl rfl
  · obtain rfl : c = '\n' := hcs c List.getLast?_concat
    exact .inr ⟨front, rfl⟩

theorem EndsLine.append (hcs : EndsLine cs) {ds : List Char} (hds : EndsLine ds) :
    EndsLine (cs ++ ds) := by
  rcases hds.eq_nil_or_concat with rfl | ⟨front, rfl⟩
  · rwa [List.append_nil]
  · rw [← List.append_assoc]
    exact endsLine_concat _

theorem splitLines_append_of_endsLine (hcs : EndsLine cs) (ds : List Char) :
    splitLines (cs ++ ds) = splitLines cs ++ splitLines ds := by
  rcases hcs.eq_nil_or_concat with rfl | ⟨front, rfl⟩
  · rfl
  · rw [List.append_assoc]
    exact splitLines_append_newline front ds

theorem length_splitLines (hcs : EndsLine cs) :
    (splitLines cs).length = cs.count '\n' := by
  induction cs using linesInduction with
  | nil => rfl
  | last body hbody hne =>
    rcases hcs.eq_nil_or_concat with rfl | ⟨front, rfl⟩
    · exact absurd rfl hne
    · simp at hbody
  | line body rest hbody ih =>
    have hrest : EndsLine rest := by
      intro c hc
      apply hcs c
      rw [List.getLast?_append, List.getLast?_cons, Option.mem_def.1 hc]
      rfl
    rw [splitLines_append hbody, List.length_cons, ih hrest, List.count_append,
      List.count_eq_zero_of_not_mem hbody, List.count_cons_self, Nat.zero_add]

theorem lastLine_newline (cs : List Char) : lastLine (cs ++ ['\n']) = [] :=
  List.rtakeWhile_concat_neg _ _ _ (by decide)

theorem lastLine_concat {c : Char} (hc : c ≠ '\n') (cs : List Char) :
    lastLine (cs ++ [c]) = lastLine cs ++ [c] :=
  List.rtakeWhile_concat_pos _ _ _ (bne_iff_ne.2 hc)

theorem lastLine_eq_self (hcs : '\n' ∉ cs) : lastLine cs = cs := by
  apply List.rtakeWhile_eq_self_iff.2
  rintro c hc
  rw [bne_iff_ne]
  rintro rfl
  exact hcs hc

theorem lastLine_append (hcs : EndsLine cs) (ds : List Char) :
    lastLine (cs ++ ds) = lastLine ds := by
  induction ds using List.reverseRecOn with
  | nil =>
    rw [List.append_nil]
    rcases hcs.eq_nil_or_concat with rfl | ⟨front, rfl⟩
    · rfl
    · exact lastLine_newline front
  | append_singleton ds d ih =>
    rw [← List.append_assoc]
    by_cases hd : d = '\n'
    · subst hd
      rw [lastLine_newline, lastLine_newline]
    · rw [lastLine_concat hd, lastLine_concat hd, ih]

namespace IsLine

theorem endsLine (hline : IsLine before line after) : EndsLine before := by
  cases hline <;> assumption

theorem splitLines_eq (hline : IsLine before line after) :
    splitLines (before ++ line ++ after) = splitLines before ++ line :: splitLines after := by
  rw [List.append_assoc, splitLines_append_of_endsLine hline.endsLine]
  cases hline with
  | ended _ hbody => rw [List.append_assoc, List.singleton_append, splitLines_append hbody]
  | unended _ hbody hne => rw [List.append_nil, splitLines_of_not_mem hbody hne]; rfl

/-- Only the last character of a line is a newline. -/
theorem newline_not_mem (hline : IsLine before line after) {front rest : List Char}
    (hsplit : line = front ++ rest) (hrest : rest ≠ []) : '\n' ∉ front := by
  cases hline with
  | ended _ hbody =>
    obtain ⟨init, c, rfl⟩ := rest.eq_nil_or_concat'.resolve_left hrest
    rw [← List.append_assoc] at hsplit
    rw [(List.append_inj' hsplit rfl).1] at hbody
    exact mt (List.mem_append_left init) hbody
  | unended _ hbody =>
    rw [hsplit] at hbody
    exact mt (List.mem_append_left rest) hbody

theorem prepend (hline : IsLine before line after) (hcs : EndsLine cs) :
    IsLine (cs ++ before) line after := by
  cases hline with
  | ended hbefore hbody => exact .ended (hcs.append hbefore) hbody
  | unended hbefore hbody hne => exact .unended (hcs.append hbefore) hbody hne

end IsLine

theorem length_flatMap_utf8EncodeChar (cs : List Char) :
    (cs.flatMap String.utf8EncodeChar).length = byteLength cs := by
  induction cs with
  | nil => rfl
  | cons c cs ih =>
    rw [List.flatMap_cons, List.length_append, String.length_utf8EncodeChar, ih, byteLength]

theorem newline_byte_not_mem (hcs : '\n' ∉ cs) : 10 ∉ cs.flatMap String.utf8EncodeChar := by
  rw [← List.count_eq_zero, count_newline_flatMap]
  exact List.count_eq_zero_of_not_mem hcs

/-- No byte of a line before its last one is that of a newline. -/
theorem IsLine.newline_byte_not_mem_take (hline : IsLine before line after) {column : Nat}
    (hcolumn : column < byteLength line) :
    10 ∉ (line.flatMap String.utf8EncodeChar).take column := by
  cases hline with
  | @ended body _ _ hbody =>
    rw [byteLength_append] at hcolumn
    have hle : column ≤ (body.flatMap String.utf8EncodeChar).length := by
      rw [length_flatMap_utf8EncodeChar]
      exact Nat.le_of_lt_succ hcolumn
    rw [List.flatMap_append, List.take_append_of_le_length hle]
    exact mt List.mem_of_mem_take (newline_byte_not_mem hbody)
  | unended _ hbody => exact mt List.mem_of_mem_take (newline_byte_not_mem hbody)

/-- Each position of a text lies in a line. -/
theorem exists_isLine {position : Nat} (hposition : position < byteLength cs) :
    ∃ before line after column, cs = before ++ line ++ after ∧ IsLine before line after ∧
      position = byteLength before + column ∧ column < byteLength line := by
  induction cs using linesInduction generalizing position with
  | nil => cases hposition
  | last body hbody hne =>
    exact ⟨[], body, [], position, (List.append_nil body).symm, .unended endsLine_nil hbody hne,
      (Nat.zero_add position).symm, hposition⟩
  | line body rest hbody ih =>
    by_cases hfirst : position < byteLength (body ++ ['\n'])
    · exact ⟨[], body ++ ['\n'], rest, position, by simp, .ended endsLine_nil hbody,
        (Nat.zero_add position).symm, hfirst⟩
    · have hsplit : body ++ '\n' :: rest = body ++ ['\n'] ++ rest := by simp
      rw [hsplit, byteLength_append] at hposition
      have hrest : position - byteLength (body ++ ['\n']) < byteLength rest := by omega
      obtain ⟨before, line, after, column, rfl, hline, hlater, hcolumn⟩ := ih hrest
      refine ⟨body ++ ['\n'] ++ before, line, after, column, by simp,
        hline.prepend (endsLine_concat body), ?_, hcolumn⟩
      rw [byteLength_append]
      omega

end lines

theorem sum_lines (text : String) :
    ((lines text).map String.utf8ByteSize).sum = text.utf8ByteSize := by
  have hflatten (pieces : List (List Char)) :
      ((pieces.map String.ofList).map String.utf8ByteSize).sum = byteLength pieces.flatten := by
    induction pieces with
    | nil => rfl
    | cons piece pieces ih =>
      rw [List.map_cons, List.map_cons, List.sum_cons, ih, List.flatten_cons, byteLength_append,
        utf8ByteSize_ofList]
  rw [lines, hflatten, flatten_splitLines, byteLength_toList]

section locate

variable {number position : Nat} {found : LinePosition}

/-- The lines before the one that is found are passed over. -/
theorem locate_append {line : String} {column : Nat} (hcolumn : column < line.utf8ByteSize)
    (number : Nat) (earlier later : List String) :
    locate number ((earlier.map String.utf8ByteSize).sum + column) (earlier ++ line :: later) =
      some ⟨number + earlier.length, line, column⟩ := by
  induction earlier generalizing number with
  | nil => simp [locate, hcolumn]
  | cons first earlier ih =>
    have hpassed : first.utf8ByteSize + (earlier.map String.utf8ByteSize).sum + column -
        first.utf8ByteSize = (earlier.map String.utf8ByteSize).sum + column := by omega
    rw [List.map_cons, List.sum_cons, List.cons_append, locate, if_neg (by omega), hpassed, ih,
      List.length_cons, Nat.add_right_comm, Nat.add_assoc]

theorem lt_of_locate_eq_some {lines : List String}
    (hfound : locate number position lines = some found) :
    position < (lines.map String.utf8ByteSize).sum := by
  induction lines generalizing number position with
  | nil => cases hfound
  | cons line lines ih =>
    rw [List.map_cons, List.sum_cons]
    unfold locate at hfound
    split at hfound
    · omega
    · have hlater := ih hfound
      omega

end locate

theorem bytesBefore_mono (text : String) {number other : Nat} (hle : number ≤ other) :
    bytesBefore text number ≤ bytesBefore text other := by
  unfold bytesBefore
  rw [List.map_take, List.map_take]
  exact List.monotone_sum_take _ (Nat.sub_le_sub_right hle 1)

theorem exists_lies {text : String} {position : Nat} (hposition : position < text.utf8ByteSize) :
    ∃ found, Lies text position found := by
  rw [← byteLength_toList] at hposition
  obtain ⟨before, line, after, column, htext, hline, heq, hcolumn⟩ := exists_isLine hposition
  refine ⟨⟨before.count '\n' + 1, String.ofList line, column⟩, ⟨before, after, ?_⟩, ?_⟩
  · rw [String.toList_ofList]
    exact ⟨htext, hline, rfl, heq⟩
  · rwa [utf8ByteSize_ofList]

namespace Lies

variable {text : String} {position later : Nat} {found next : LinePosition}

theorem exists_lines (hlies : Lies text position found) :
    ∃ earlier after, lines text = earlier ++ found.line :: after ∧
      found.number = earlier.length + 1 ∧
      position = (earlier.map String.utf8ByteSize).sum + found.column := by
  obtain ⟨before, after, htext, hline, hnumber, hposition⟩ := hlies.exists_line
  refine ⟨lines (String.ofList before), lines (String.ofList after), ?_, ?_, ?_⟩
  · simp only [lines, htext, hline.splitLines_eq, List.map_append, List.map_cons,
      String.ofList_toList, String.toList_ofList]
  · rw [lines, List.length_map, String.toList_ofList, length_splitLines hline.endsLine, hnumber]
  · rw [sum_lines, utf8ByteSize_ofList, hposition]

theorem lineAt?_eq (hlies : Lies text position found) : lineAt? text position = some found := by
  obtain ⟨earlier, after, hlines, hnumber, hposition⟩ := hlies.exists_lines
  rw [lineAt?, hlines, hposition, locate_append hlies.column_lt, Nat.add_comm, ← hnumber]

theorem bytesBefore_add_column (hlies : Lies text position found) :
    bytesBefore text found.number + found.column = position := by
  obtain ⟨earlier, after, hlines, hnumber, hposition⟩ := hlies.exists_lines
  rw [bytesBefore, hlines, hnumber, Nat.add_sub_cancel, List.take_left, hposition]

theorem lt_bytesBefore (hlies : Lies text position found) :
    position < bytesBefore text (found.number + 1) := by
  obtain ⟨earlier, after, hlines, hnumber, hposition⟩ := hlies.exists_lines
  have hcolumn := hlies.column_lt
  rw [bytesBefore, hlines, hnumber, Nat.add_sub_cancel, List.take_length_add_append, List.map_append,
    List.sum_append]
  simp only [List.take_succ_cons, List.take_zero, List.map_cons, List.map_nil, List.sum_cons,
    List.sum_nil]
  omega

/-- A later position lies in a later line, or farther to the right in the same one. -/
theorem place_lt (hlies : Lies text position found) (hnext : Lies text later next)
    (hlt : position < later) :
    found.number < next.number ∨ found.number = next.number ∧ found.column < next.column := by
  have hposition := hlies.bytesBefore_add_column
  have hlater := hnext.bytesBefore_add_column
  rcases Nat.lt_trichotomy found.number next.number with hless | hsame | hgreater
  · exact .inl hless
  · rw [hsame] at hposition
    exact .inr ⟨hsame, by omega⟩
  · have hmono : bytesBefore text (next.number + 1) ≤ bytesBefore text found.number :=
      bytesBefore_mono text hgreater
    have hend := hnext.lt_bytesBefore
    omega

/-- The bytes before a position hold the newlines that end the earlier lines. -/
theorem count_newline (hlies : Lies text position found) :
    (text.toUTF8.data.toList.take position).count 10 + 1 = found.number := by
  obtain ⟨before, after, htext, hline, hnumber, hposition⟩ := hlies.exists_line
  have hcolumn := hlies.column_lt
  rw [← byteLength_toList] at hcolumn
  have hle : found.column ≤ (found.line.toList.flatMap String.utf8EncodeChar).length := by
    rw [length_flatMap_utf8EncodeChar]
    exact Nat.le_of_lt hcolumn
  rw [toList_toUTF8, htext, List.append_assoc, List.flatMap_append, List.flatMap_append, hposition,
    ← length_flatMap_utf8EncodeChar, List.take_length_add_append, List.take_append_of_le_length hle,
    List.count_append, count_newline_flatMap,
    List.count_eq_zero_of_not_mem (hline.newline_byte_not_mem_take hcolumn), hnumber]

/-- The place of a character is told by what comes before it. -/
theorem eq_of_split (hlies : Lies text position found) {cs ds : List Char}
    (htext : text.toList = cs ++ ds) (hposition : position = byteLength cs) :
    found.number = cs.count '\n' + 1 ∧ found.column = byteLength (lastLine cs) := by
  obtain ⟨before, after, hsplit, hline, hnumber, hplace⟩ := hlies.exists_line
  have hcolumn := hlies.column_lt
  rw [← byteLength_toList] at hcolumn
  have hlength : byteLength cs = byteLength before + found.column := by
    rw [← hposition, hplace]
  rw [htext, List.append_assoc] at hsplit
  obtain ⟨front, rfl, hrest⟩ : ∃ front, cs = before ++ front ∧
      front ++ ds = found.line.toList ++ after := by
    rcases List.append_eq_append_iff.1 hsplit with ⟨more, rfl, hmore⟩ | ⟨front, rfl, hfront⟩
    · rw [byteLength_append] at hlength
      obtain rfl : more = [] := eq_nil_of_byteLength_eq_zero (by omega)
      exact ⟨[], by simp, hmore⟩
    · exact ⟨front, rfl, hfront.symm⟩
  rw [byteLength_append, Nat.add_left_cancel_iff] at hlength
  have hfront : '\n' ∉ front := by
    rcases List.append_eq_append_iff.1 hrest with ⟨more, hmore, -⟩ | ⟨more, rfl, -⟩
    · apply hline.newline_not_mem hmore
      rintro rfl
      rw [hmore, List.append_nil] at hcolumn
      omega
    · rw [byteLength_append] at hlength
      omega
  refine ⟨?_, ?_⟩
  · rw [hnumber, List.count_append, List.count_eq_zero_of_not_mem hfront, Nat.add_zero]
  · rw [lastLine_append hline.endsLine, lastLine_eq_self hfront, hlength]

end Lies

theorem lineAt?_isSome_iff {text : String} {position : Nat} :
    (lineAt? text position).isSome ↔ position < text.utf8ByteSize := by
  rw [Option.isSome_iff_exists]
  constructor
  · rintro ⟨found, hfound⟩
    rw [← sum_lines]
    exact lt_of_locate_eq_some hfound
  · intro hposition
    obtain ⟨found, hlies⟩ := exists_lies hposition
    exact ⟨found, hlies.lineAt?_eq⟩

theorem lineAt?_eq_some_iff {text : String} {position : Nat} {found : LinePosition} :
    lineAt? text position = some found ↔ Lies text position found := by
  constructor
  · intro hfound
    have hposition : position < text.utf8ByteSize := by
      rw [← lineAt?_isSome_iff, hfound]
      rfl
    obtain ⟨other, hlies⟩ := exists_lies hposition
    rw [hlies.lineAt?_eq] at hfound
    rwa [← Option.some.inj hfound]
  · exact Lies.lineAt?_eq

/-- The lookup finds the places of the positions that a text has, those inside of an encoded
character included. The number of a line is told by the newlines among the bytes before the
position, the position by the lengths of the earlier lines and the column, and later positions have
later places. -/
theorem line_lookup_exact (text : String) :
    (∀ position, (lineAt? text position).isSome ↔ position < text.utf8ByteSize) ∧
    (∀ position found, lineAt? text position = some found ↔ Lies text position found) ∧
    (∀ position found, lineAt? text position = some found →
      found.number = 1 + (text.toUTF8.data.toList.take position).count 10 ∧
        bytesBefore text found.number + found.column = position) ∧
    ∀ position later found next, lineAt? text position = some found →
      lineAt? text later = some next → position < later →
        found.number < next.number ∨ found.number = next.number ∧ found.column < next.column := by
  refine ⟨fun _ ↦ lineAt?_isSome_iff, fun _ _ ↦ lineAt?_eq_some_iff, ?_, ?_⟩
  · intro position found hfound
    have hlies := lineAt?_eq_some_iff.1 hfound
    exact ⟨hlies.count_newline.symm.trans (Nat.add_comm _ _), hlies.bytesBefore_add_column⟩
  · intro position later found next hfound hnext hlt
    exact (lineAt?_eq_some_iff.1 hfound).place_lt (lineAt?_eq_some_iff.1 hnext) hlt

/-- The second byte of a character, the newline of an empty line, and the end of the text. -/
theorem line_lookup_exact_inside :
    let text := "é\n\nb"
    (lineAt? text 1 = some ⟨1, "é\n", 1⟩ ∧ Lies text 1 ⟨1, "é\n", 1⟩ ∧ bytesBefore text 1 + 1 = 1) ∧
      lineAt? text 3 = some ⟨2, "\n", 0⟩ ∧ (1 < 2 ∨ 1 = 2 ∧ 1 < 0) ∧ lineAt? text 5 = none := by
  intro text
  have hinside : lineAt? text 1 = some ⟨1, "é\n", 1⟩ := by decide +kernel
  have hempty : lineAt? text 3 = some ⟨2, "\n", 0⟩ := by decide +kernel
  obtain ⟨hsome, hlies, hexact, hlater⟩ := line_lookup_exact text
  refine ⟨⟨hinside, (hlies _ _).1 hinside, (hexact _ _ hinside).2⟩, hempty,
    hlater _ _ _ _ hinside hempty (by decide), ?_⟩
  rw [← Option.not_isSome_iff_eq_none, hsome]
  decide

end LexTable.Text
