import LexTable.Proofs.Preparation.Tabs
import LexTable.Proofs.Text.Positions

/-!
# Tab stops

Expanding tabs ends each of them at the next tab stop of its line, counted in the characters that
were written. The column that is carried along is that of the text written so far, so that a text is
expanded piece by piece, and each line for itself.
-/

namespace LexTable.Preparation

open Text (EndsLine lastLine)

/-- How many characters a text has after its last newline. -/
def column (cs : List Char) : Nat :=
  (lastLine cs).length

/-- What a text is expanded to behind `done`: its tabs have become spaces, at least one and at most
`size` of them, up to a multiple of `size`, and everything else is kept. -/
inductive Aligns (size : Nat) : List Char → List Char → List Char → Prop
  | nil {done : List Char} : Aligns size done [] []
  | keep {done cs ds : List Char} {c : Char} (hc : c ≠ '\t')
      (hrest : Aligns size (done ++ [c]) cs ds) : Aligns size done (c :: cs) (c :: ds)
  | tab {done cs ds : List Char} {width : Nat} (hpos : 0 < width) (hle : width ≤ size)
      (hstop : size ∣ column (done ++ List.replicate width ' '))
      (hrest : Aligns size (done ++ List.replicate width ' ') cs ds) :
      Aligns size done ('\t' :: cs) (List.replicate width ' ' ++ ds)

section column

theorem column_newline (cs : List Char) : column (cs ++ ['\n']) = 0 := by
  rw [column, Text.lastLine_newline, List.length_nil]

theorem column_concat {c : Char} (hc : c ≠ '\n') (cs : List Char) :
    column (cs ++ [c]) = column cs + 1 := by
  rw [column, Text.lastLine_concat hc, List.length_append, List.length_singleton, ← column]

theorem column_spaces (cs : List Char) (width : Nat) :
    column (cs ++ List.replicate width ' ') = column cs + width := by
  induction width with
  | zero => rw [List.replicate_zero, List.append_nil, Nat.add_zero]
  | succ width ih =>
    rw [List.replicate_succ', ← List.append_assoc, column_concat (by decide), ih, Nat.add_assoc]

/-- Only one number of spaces from 1 to `size` leads to a multiple of `size`. -/
theorem add_mod_eq_of_dvd {size column width : Nat} (hpos : 0 < width) (hle : width ≤ size)
    (hstop : size ∣ column + width) : width + column % size = size := by
  have hmod : column % size < size := Nat.mod_lt column (Nat.lt_of_lt_of_le hpos hle)
  have hdvd : size ∣ width + column % size := by
    rw [Nat.dvd_iff_mod_eq_zero, Nat.add_mod_mod, Nat.add_comm, ← Nat.dvd_iff_mod_eq_zero]
    exact hstop
  exact Nat.eq_of_dvd_of_lt_two_mul (by omega) hdvd (by omega)

theorem dvd_of_add_mod_eq {size column width : Nat} (hwidth : width + column % size = size) :
    size ∣ column + width := by
  rw [Nat.dvd_iff_mod_eq_zero, Nat.add_comm, ← Nat.add_mod_mod, hwidth, Nat.mod_self]

end column

theorem Aligns.unique {size : Nat} {done cs ds es : List Char} (hds : Aligns size done cs ds)
    (hes : Aligns size done cs es) : ds = es := by
  induction hds generalizing es with
  | nil =>
    cases hes
    rfl
  | keep hc _ ih =>
    cases hes with
    | keep _ hrest => rw [ih hrest]
    | tab => exact absurd rfl hc
  | @tab done cs ds width hpos hle hstop _ ih =>
    cases hes with
    | keep hc => exact absurd rfl hc
    | @tab _ _ _ other hpos' hle' hstop' hrest =>
      rw [column_spaces] at hstop hstop'
      have hwidth := add_mod_eq_of_dvd hpos hle hstop
      have hother := add_mod_eq_of_dvd hpos' hle' hstop'
      obtain rfl : width = other := by omega
      rw [ih hrest]

section expandTabs

variable {size : Nat}

/-- The column that is carried along is that of what was written. -/
theorem aligns_expandTabsFrom (hsize : 0 < size) (done cs : List Char) :
    Aligns size done cs (expandTabsFrom size (column done) cs) := by
  induction cs generalizing done with
  | nil => exact .nil
  | cons c cs ih =>
    rw [expandTabsFrom]
    split
    · next hc =>
      subst hc
      have hmod := Nat.mod_lt (column done) hsize
      have hwidth : size - column done % size + column done % size = size :=
        Nat.sub_add_cancel (Nat.le_of_lt hmod)
      have hrest := ih (done ++ List.replicate (size - column done % size) ' ')
      rw [column_spaces] at hrest
      refine .tab (Nat.sub_pos_of_lt hmod) (Nat.sub_le _ _) ?_ hrest
      rw [column_spaces]
      exact dvd_of_add_mod_eq hwidth
    · next hc =>
      have hrest := ih (done ++ [c])
      split
      · next hnewline =>
        subst hnewline
        rw [column_newline] at hrest
        exact .keep hc hrest
      · next hnewline =>
        rw [column_concat hnewline] at hrest
        exact .keep hc hrest

theorem expandTabsFrom_append (size : Nat) (done cs ds : List Char) :
    expandTabsFrom size (column done) (cs ++ ds) =
      expandTabsFrom size (column done) cs ++
        expandTabsFrom size (column (done ++ expandTabsFrom size (column done) cs)) ds := by
  induction cs generalizing done with
  | nil => rw [expandTabsFrom, List.append_nil, List.nil_append, List.nil_append]
  | cons c cs ih =>
    rw [List.cons_append, expandTabsFrom, expandTabsFrom]
    split
    · dsimp only
      rw [← column_spaces, ih, List.append_assoc, List.append_assoc]
    · split
      · next hnewline =>
        subst hnewline
        have hrest := ih (done ++ ['\n'])
        rw [column_newline, List.append_assoc] at hrest
        rw [hrest]
        rfl
      · next hnewline =>
        have hrest := ih (done ++ [c])
        rw [column_concat hnewline, List.append_assoc] at hrest
        rw [hrest]
        rfl

theorem expandTabs_append (size : Nat) (cs ds : List Char) :
    expandTabs size (cs ++ ds) =
      expandTabs size cs ++ expandTabsFrom size (column (expandTabs size cs)) ds :=
  expandTabsFrom_append size [] cs ds

theorem expandTabs_append_newline (size : Nat) (cs ds : List Char) :
    expandTabs size (cs ++ '\n' :: ds) = expandTabs size cs ++ '\n' :: expandTabs size ds :=
  expandTabs_append size cs ('\n' :: ds)

/-- A tab becomes what the column before it lacks to the next multiple of `size`. -/
theorem expandTabs_append_tab (size : Nat) (cs ds : List Char) :
    let column := column (expandTabs size cs)
    let width := size - column % size
    expandTabs size (cs ++ '\t' :: ds) =
      expandTabs size cs ++ List.replicate width ' ' ++ expandTabsFrom size (column + width) ds := by
  intro column width
  rw [List.append_assoc]
  exact expandTabs_append size cs ('\t' :: ds)

theorem column_expandTabs (hsize : 0 < size) {before line : List Char} (hbefore : EndsLine before)
    (hline : '\n' ∉ line) :
    column (expandTabs size (before ++ line)) = (expandTabs size line).length := by
  have hnewline : '\n' ∉ expandTabs size line := by
    intro hmem
    rcases (widens_expandTabsFrom hsize 0 line).mem_or_eq hmem with hmem | hspace
    · exact hline hmem
    · exact absurd hspace (by decide)
  have hcolumn : column (expandTabs size line) = (expandTabs size line).length := by
    rw [column, Text.lastLine_eq_self hnewline]
  rcases hbefore.eq_nil_or_concat with rfl | ⟨front, rfl⟩
  · exact hcolumn
  · have hsplit := expandTabs_append_newline size front line
    rw [List.append_assoc, List.singleton_append, hsplit, List.append_cons, column,
      Text.lastLine_append (Text.endsLine_concat _)]
    exact hcolumn

/-- Where a tab ends is told by how long the line before it has become. -/
theorem column_expandTabs_tab (hsize : 0 < size) {before line : List Char}
    (hbefore : EndsLine before) (hline : '\n' ∉ line) :
    let length := (expandTabs size line).length
    column (expandTabs size (before ++ line ++ ['\t'])) = length + (size - length % size) := by
  intro length
  have htab := expandTabs_append_tab size (before ++ line) []
  dsimp only at htab
  rw [expandTabsFrom, List.append_nil] at htab
  rw [htab, column_spaces, column_expandTabs hsize hbefore hline]

end expandTabs

/-- Looking a text through for tabs before they are expanded makes no difference. -/
theorem apply_eq_guarded (p : Preparation) (source : String) :
    let cs := p.trimEdges (unifyNewlines (dropMark source.toList))
    p.apply source = String.ofList (p.complete
      (if 0 < p.tabSize ∧ '\t' ∈ cs then expandTabs p.tabSize cs else cs)) := by
  intro cs
  have hbody : p.body source.toList =
      if 0 < p.tabSize ∧ '\t' ∈ cs then expandTabs p.tabSize cs else cs := by
    unfold body
    dsimp only
    split
    · next hsize => rw [if_neg (by omega)]
    · next hsize =>
      split
      · rfl
      · next hguard =>
        have htab : '\t' ∉ cs := fun hmem ↦ hguard ⟨Nat.pos_of_ne_zero hsize, hmem⟩
        exact expandTabsFrom_eq_self _ _ htab
  apply String.toList_injective
  rw [toList_apply, hbody, String.toList_ofList]

/-- Expanding tabs gives the one text in which each tab ends at a tab stop. At a tab the column
modulo `size` and the width of the tab make `size` together, lines are expanded by themselves, and
so tabs behind texts that have become equally long end in the same column. A text without tabs stays
as it is, whether it was looked through for tabs before or not. -/
theorem expandTabs_aligns {size : Nat} (hsize : 0 < size) :
    (∀ cs ds, Aligns size [] cs ds ↔ ds = expandTabs size cs) ∧
    (∀ before after, ∃ width rest,
      expandTabs size (before ++ '\t' :: after) =
        expandTabs size before ++ List.replicate width ' ' ++ rest ∧
      expandTabs size (before ++ ['\t']) = expandTabs size before ++ List.replicate width ' ' ∧
      width + column (expandTabs size before) % size = size) ∧
    (∀ cs ds, expandTabs size (cs ++ '\n' :: ds) =
      expandTabs size cs ++ '\n' :: expandTabs size ds) ∧
    (∀ before line other next, EndsLine before → EndsLine other → '\n' ∉ line → '\n' ∉ next →
      (expandTabs size line).length = (expandTabs size next).length →
      column (expandTabs size (before ++ line ++ ['\t'])) =
        column (expandTabs size (other ++ next ++ ['\t']))) ∧
    (∀ cs, '\t' ∉ cs → expandTabs size cs = cs) ∧
    ∀ (p : Preparation) (source : String),
      let cs := p.trimEdges (unifyNewlines (dropMark source.toList))
      p.apply source = String.ofList (p.complete
        (if 0 < p.tabSize ∧ '\t' ∈ cs then expandTabs p.tabSize cs else cs)) := by
  refine ⟨?_, ?_, expandTabs_append_newline size, ?_, fun _ ↦ expandTabsFrom_eq_self size 0,
    apply_eq_guarded⟩
  · intro cs ds
    have haligns : Aligns size [] cs (expandTabs size cs) := aligns_expandTabsFrom hsize [] cs
    constructor
    · intro hds
      exact hds.unique haligns
    · rintro rfl
      exact haligns
  · intro before after
    have hmod := Nat.mod_lt (column (expandTabs size before)) hsize
    have htab := expandTabs_append_tab size before []
    dsimp only at htab
    rw [expandTabsFrom, List.append_nil] at htab
    exact ⟨_, _, expandTabs_append_tab size before after, htab,
      Nat.sub_add_cancel (Nat.le_of_lt hmod)⟩
  · intro before line other next hbefore hother hline hnext hlength
    rw [column_expandTabs_tab hsize hbefore hline, column_expandTabs_tab hsize hother hnext,
      hlength]

/-- A letter of two bytes counts as one character, and the next line begins at column 0 again. -/
theorem expandTabs_aligns_lines :
    0 < 4 ∧ Aligns 4 [] "é\tx\n\ty".toList "é   x\n    y".toList ∧
      column (expandTabs 4 "é\t".toList) = column (expandTabs 4 "é\tx\nz\t".toList) := by
  have hsize : 0 < 4 := by decide
  obtain ⟨haligns, -, -, hcolumns, -⟩ := expandTabs_aligns hsize
  refine ⟨hsize, (haligns _ _).2 (by decide), ?_⟩
  exact hcolumns [] ['é'] "é\tx\n".toList ['z'] Text.endsLine_nil
    (Text.endsLine_concat "é\tx".toList) (by decide) (by decide) (by decide)

end LexTable.Preparation
