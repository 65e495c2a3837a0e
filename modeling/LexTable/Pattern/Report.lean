import LexTable.Pattern.Error

/-!
# Showing what is wrong with a pattern

A report repeats the pattern and marks the part that is wrong. A pattern of one line is
indented; the lines of a longer one are numbered and stand between rulers. Part of the report is
the position of the wrong part if it goes over several lines.
-/

namespace LexTable.Pattern

/-- A line and a column, both counted from 1. -/
structure Mark where
  line : Nat
  column : Nat
  deriving DecidableEq

/-- The line and the column after the given text. -/
def Mark.after (text : List Char) : Mark where
  line := text.count '\n' + 1
  column := (text.reverse.takeWhile (· != '\n')).length + 1

/-- The lines of a text without their line endings. A newline at the end begins no line. -/
def textLines (text : List Char) : List (List Char) :=
  let pieces := text.splitOn '\n'
  let pieces := if pieces.getLast? = some [] then pieces.dropLast else pieces
  (pieces.zipIdx).map fun (piece, index) =>
    if piece.getLast? = some '\r' ∧ index < text.count '\n' then piece.dropLast else piece

namespace Error

def describe : Error → String
  | unclosedClass => "unclosed character class"
  | unclosedGroup => "unclosed group"
  | unopenedGroup => "unopened group"
  | missingOperand => "repetition operator missing expression"
  | malformedCount => "invalid repetition count"
  | malformedEscape => "incomplete escape sequence"
  | unknownEscape => "unrecognized escape sequence"
  | invalidScalar => "hexadecimal literal is not a Unicode scalar value"
  | unknownProperty => "Unicode property not found"
  | malformedGroupName => "invalid capture group name"
  | repeatedGroupName => "duplicate capture group name"
  | malformedFlags => "invalid flags"
  | lookAround =>
    "look-around, including look-ahead and look-behind, is not supported"
  | assertionInClass => "invalid escape sequence found in character class"
  | rangeOfClasses => "invalid range boundary, must be a literal"
  | reversedRange .. => "invalid character class range, the start must be <= the end"

/-- The part of a pattern that is wrong, where it is known. -/
def part? : Error → Option (Nat × Nat)
  | reversedRange start stop => some (start, stop)
  | _ => none

end Error

def ruler : List Char := List.replicate 79 '~'

def padLeft (width : Nat) (text : List Char) : List Char :=
  List.replicate (width - text.length) ' ' ++ text

/-- The lines of a pattern, with carets below the part from `start` to `stop` if it lies in one
line. -/
def notated (pattern : List Char) (marks : Option (Mark × Mark)) : List (List Char) :=
  let lineCount := (textLines pattern).length + (if pattern.getLast? = some '\n' then 1 else 0)
  let width := if lineCount ≤ 1 then 0 else (Nat.toDigits 10 lineCount).length
  let margin := if width = 0 then 4 else width + 2
  ((textLines pattern).zipIdx 1).flatMap fun (line, number) =>
    let label :=
      if width = 0 then List.replicate 4 ' '
      else padLeft width (Nat.toDigits 10 number) ++ ": ".toList
    let carets := match marks with
      | some (first, last) =>
        if first.line = number ∧ last.line = number then
          [List.replicate (margin + (first.column - 1)) ' ' ++
            List.replicate (max 1 (last.column - first.column)) '^']
        else
          []
      | none => []
    (label ++ line) :: carets

/-- Tells what is wrong with a pattern. -/
def report (pattern : List Char) (error : Error) : String :=
  let marks := error.part?.map fun (start, stop) =>
    (Mark.after (pattern.take start), Mark.after (pattern.take stop))
  let body := notated pattern marks
  let lines :=
    if pattern.contains '\n' then
      let place := match marks with
        | some (first, last) =>
          if first.line = last.line then []
          else
            [("on line " ++ toString first.line ++ " (column " ++ toString first.column ++
              ") through line " ++ toString last.line ++ " (column " ++
              toString (last.column - 1) ++ ")").toList]
        | none => []
      ruler :: body ++ [ruler] ++ place
    else
      body
  let ending := ("error: " ++ error.describe).toList
  String.ofList
    (['\n'].intercalate ("regex parse error:".toList :: lines ++ [ending]))

end LexTable.Pattern
