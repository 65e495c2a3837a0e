/-!
# Lines

A line ends with its newline, which belongs to it; only the last line may lack one. Positions
are counted in bytes of the encoded text.
-/

namespace LexTable.Text

/-- How many bytes encode the characters. -/
def byteLength : List Char → Nat
  | [] => 0
  | c :: cs => c.utf8Size + byteLength cs

@[simp] theorem byteLength_append (cs ds : List Char) :
    byteLength (cs ++ ds) = byteLength cs + byteLength ds := by
  induction cs with
  | nil => simp [byteLength]
  | cons c cs ih => simp [byteLength, ih, Nat.add_assoc]

theorem byteLength_pos {cs : List Char} (hcs : cs ≠ []) : 0 < byteLength cs := by
  obtain ⟨c, cs, rfl⟩ := List.exists_cons_of_ne_nil hcs
  exact Nat.add_pos_left c.utf8Size_pos _

theorem eq_nil_of_byteLength_eq_zero {cs : List Char} (hcs : byteLength cs = 0) : cs = [] := by
  cases cs with
  | nil => rfl
  | cons c cs => exact absurd hcs (Nat.ne_of_gt (byteLength_pos (List.cons_ne_nil c cs)))

/-- A place in a text is known by its position. -/
theorem append_inj_of_byteLength_eq {cs ds xs ys : List Char} (hsame : cs ++ xs = ds ++ ys)
    (hlength : byteLength cs = byteLength ds) : cs = ds ∧ xs = ys := by
  rcases List.append_eq_append_iff.1 hsame with ⟨more, rfl, rfl⟩ | ⟨more, rfl, rfl⟩
  · rw [byteLength_append] at hlength
    obtain rfl : more = [] := eq_nil_of_byteLength_eq_zero (by omega)
    exact ⟨(List.append_nil cs).symm, rfl⟩
  · rw [byteLength_append] at hlength
    obtain rfl : more = [] := eq_nil_of_byteLength_eq_zero (by omega)
    exact ⟨List.append_nil ds, rfl⟩

@[simp] theorem utf8ByteSize_ofList (cs : List Char) :
    (String.ofList cs).utf8ByteSize = byteLength cs := by
  induction cs with
  | nil => rfl
  | cons c cs ih =>
    rw [String.ofList_cons, String.utf8ByteSize_append, String.utf8ByteSize_singleton, ih]
    rfl

@[simp] theorem byteLength_toList (text : String) :
    byteLength text.toList = text.utf8ByteSize := by
  rw [← utf8ByteSize_ofList, String.ofList_toList]

/-- Cuts a text after each newline. -/
def splitLines : List Char → List (List Char)
  | [] => []
  | c :: cs =>
    if c = '\n' then
      [c] :: splitLines cs
    else
      match splitLines cs with
      | [] => [[c]]
      | line :: lines => (c :: line) :: lines

@[simp] theorem flatten_splitLines (cs : List Char) : (splitLines cs).flatten = cs := by
  induction cs with
  | nil => rfl
  | cons c cs ih =>
    unfold splitLines
    split
    · simp [ih]
    · split <;> simp_all

def lines (text : String) : List String :=
  (splitLines text.toList).map String.ofList

/-- A position, given by the number of its line, counted from 1, the text of the line and the
number of bytes before it in the line. -/
structure LinePosition where
  number : Nat
  line : String
  column : Nat
  deriving DecidableEq

/-- Finds a position in lines of which the first has the given number. -/
def locate (number : Nat) (position : Nat) : List String → Option LinePosition
  | [] => none
  | line :: lines =>
    if position < line.utf8ByteSize then some ⟨number, line, position⟩
    else locate (number + 1) (position - line.utf8ByteSize) lines

/-- The line that holds the byte at `position`. -/
def lineAt? (text : String) (position : Nat) : Option LinePosition :=
  locate 1 position (lines text)

end LexTable.Text
