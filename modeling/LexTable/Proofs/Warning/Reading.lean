import LexTable.Proofs.Text.Lines
import LexTable.Proofs.Text.Quoting
import LexTable.Warning

/-!
# Reading warnings

A warning is written in one line, whatever the text that it quotes, and the line tells the place
and the text of what it is about. So the warnings in a report can be read back from its bytes.
-/

namespace LexTable.Warning

/-- A number in decimal digits, and what follows its last digit. -/
def readNumber? (cs : List Char) : Option (Nat × List Char) :=
  let digits := cs.takeWhile Char.isDigit
  if digits = [] then
    none
  else
    some (Nat.ofDigitChars 10 digits 0, cs.drop digits.length)

/-- Reads a line `warning: LINE:COLUMN: no rule matched "TEXT"`. -/
def readLine? (line : List Char) : Option Warning := do
  let rest ← "warning: ".toList.isPrefixOf? line
  let (number, rest) ← readNumber? rest
  let rest ← ":".toList.isPrefixOf? rest
  let (column, rest) ← readNumber? rest
  let rest ← ": no rule matched \"".toList.isPrefixOf? rest
  let (value, rest) ← Text.unquoteFrom 0 rest
  if rest = ['\n'] then
    some ⟨number, column, String.ofList value⟩
  else
    none

/-- The warnings in a report, given by its bytes. -/
def readReport? (bytes : ByteArray) : Option (List Warning) := do
  let text ← String.fromUTF8? bytes
  (Text.splitLines text.toList).mapM readLine?

/-- The text has a line for each of the warnings, and no other line. -/
structure Tells (text : String) (warnings : List Warning) : Prop where
  lines_eq : Text.lines text = warnings.map fun warning ↦
    "warning: " ++ toString warning.line ++ ":" ++ toString warning.column ++
      ": no rule matched " ++ Text.quote warning.value ++ "\n"
  count_newline : text.toUTF8.data.toList.count 10 = warnings.length
  readReport?_eq : readReport? text.toUTF8 = some warnings

theorem isDigit_of_mem_toString {n : Nat} {c : Char} (hc : c ∈ (toString n).toList) :
    c.isDigit := by
  change c ∈ n.repr.toList at hc
  rw [Nat.toList_repr] at hc
  exact Nat.isDigit_of_mem_toDigits (by decide) (by decide) hc

/-- A number is read up to the colon behind it. -/
theorem readNumber?_append (n : Nat) (rest : List Char) :
    readNumber? ((toString n).toList ++ ':' :: rest) = some (n, ':' :: rest) := by
  have htake : ((toString n).toList ++ ':' :: rest).takeWhile Char.isDigit =
      (toString n).toList := by
    rw [List.takeWhile_append_of_pos fun _ ↦ isDigit_of_mem_toString,
      List.takeWhile_cons_of_neg (by decide), List.append_nil]
  have hdigits : (toString n).toList = Nat.toDigits 10 n := Nat.toList_repr
  have hne : (toString n).toList ≠ [] := hdigits ▸ Nat.toDigits_ne_nil
  have hvalue : Nat.ofDigitChars 10 (toString n).toList 0 = n := by
    rw [hdigits]
    exact Nat.ofDigitChars_ten_toDigits
  rw [readNumber?, htake, if_neg hne, hvalue, List.drop_left]

theorem isPrefixOf?_append (start rest : List Char) :
    start.isPrefixOf? (start ++ rest) = some rest :=
  List.isPrefixOf?_eq_some_iff_append_eq.2 rfl

/-- The parts of a message in the order in which they are read. -/
theorem toList_message (warning : Warning) : warning.message.toList =
    "warning: ".toList ++ ((toString warning.line).toList ++ (":".toList ++
      ((toString warning.column).toList ++ (": no rule matched \"".toList ++
        (warning.value.toList.flatMap Text.escapeChar ++ ['"', '\n']))))) := by
  simp [message, Text.quote]

theorem readLine?_message (warning : Warning) :
    readLine? warning.message.toList = some warning := by
  have hline (rest : List Char) :
      readNumber? ((toString warning.line).toList ++ (":".toList ++ rest)) =
        some (warning.line, ":".toList ++ rest) :=
    readNumber?_append _ _
  have hcolumn (rest : List Char) :
      readNumber? ((toString warning.column).toList ++ (": no rule matched \"".toList ++ rest)) =
        some (warning.column, ": no rule matched \"".toList ++ rest) :=
    readNumber?_append _ _
  have hvalue : Text.unquoteFrom 0
      (warning.value.toList.flatMap Text.escapeChar ++ ['"', '\n']) =
        some (warning.value.toList, ['\n']) :=
    Text.unquoteFrom_escaped _ _
  rw [toList_message]
  simp only [readLine?, isPrefixOf?_append, Option.bind_eq_bind, Option.bind_some, hline, hcolumn,
    hvalue, if_true, String.ofList_toList]

/-- The only newline of a message is the one at its end. -/
theorem exists_message_body (warning : Warning) :
    ∃ body, warning.message.toList = body ++ ['\n'] ∧ '\n' ∉ body := by
  have hdigits (n : Nat) : '\n' ∉ (toString n).toList := by
    intro hmem
    exact absurd (isDigit_of_mem_toString hmem) (by decide)
  refine ⟨("warning: " ++ toString warning.line ++ ":" ++ toString warning.column ++
    ": no rule matched " ++ Text.quote warning.value).toList, ?_, ?_⟩
  · rw [message, String.toList_append]
    rfl
  · simp only [String.toList_append, List.mem_append, not_or]
    exact ⟨⟨⟨⟨⟨by decide, hdigits _⟩, by decide⟩, hdigits _⟩, by decide⟩,
      Text.newline_not_mem_quote _⟩

theorem toList_report (warnings : List Warning) :
    (report warnings).toList = warnings.flatMap fun warning ↦ warning.message.toList := by
  rw [report, String.toList_join, List.flatMap_map]

theorem lines_report (warnings : List Warning) :
    Text.lines (report warnings) = warnings.map message := by
  have hsplit := Text.splitLines_flatMap exists_message_body warnings
  rw [Text.lines, toList_report, hsplit, List.map_map]
  apply List.map_congr_left
  intro warning _
  exact String.ofList_toList

theorem report_tells (warnings : List Warning) : Tells (report warnings) warnings where
  lines_eq := lines_report warnings
  count_newline := by
    rw [Text.count_newline_toUTF8, toList_report]
    exact Text.count_newline_lines exists_message_body warnings
  readReport?_eq := by
    have hread := Text.bind_mapM_splitLines exists_message_body readLine?_message
      (toList_report warnings)
    rwa [List.map_id'] at hread

end LexTable.Warning
