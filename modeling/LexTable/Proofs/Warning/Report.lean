import LexTable.Proofs.Lexer.Tiling
import LexTable.Proofs.Text.Positions
import LexTable.Proofs.Warning.Reading

/-!
# Warnings and their places

The report has one line for each error token that begins in the text, and no other line. The line
and the column that it tells lead back to the start of the token. The errors of a whole text all
begin in it, one after the other, so that none of them is missing and their places increase.
-/

namespace LexTable.Warning

/-- The warning is about the token and tells where in the text it begins. -/
structure About (text : String) (token : Token) (warning : Warning) : Prop where
  value_eq : warning.value = token.value
  column_pos : 0 < warning.column
  lies : ∃ line, Text.Lies text token.span.start ⟨warning.line, line, warning.column - 1⟩
  start_eq : Text.bytesBefore text warning.line + (warning.column - 1) = token.span.start

/-- The error tokens that begin in the text. -/
def reportable (text : String) (token : Token) : Bool :=
  token.kind = .error ∧ token.span.start < text.utf8ByteSize

/-- The first warning is about an earlier place. -/
def Precedes (warning later : Warning) : Prop :=
  warning.line < later.line ∨ warning.line = later.line ∧ warning.column < later.column

section ofToken

variable {text : String} {token : Token} {warning : Warning}

theorem ofToken?_of_not_reportable (htoken : ¬ reportable text token) :
    ofToken? (Text.lines text) token = none := by
  unfold ofToken?
  split
  · next hkind =>
    have hnone : ¬ (Text.lineAt? text token.span.start).isSome := by
      rw [Text.lineAt?_isSome_iff]
      intro hstart
      exact htoken (by simp [reportable, hkind, hstart])
    rw [Option.not_isSome_iff_eq_none] at hnone
    rw [Text.lineAt?] at hnone
    rw [hnone, Option.map_none]
  · rfl

theorem exists_ofToken?_of_reportable (htoken : reportable text token) :
    ∃ warning, ofToken? (Text.lines text) token = some warning ∧ About text token warning := by
  obtain ⟨hkind, hstart⟩ : token.kind = .error ∧ token.span.start < text.utf8ByteSize := by
    simpa [reportable] using htoken
  obtain ⟨found, hlies⟩ := Text.exists_lies hstart
  have hfound := hlies.lineAt?_eq
  rw [Text.lineAt?] at hfound
  refine ⟨⟨found.number, found.column + 1, token.value⟩, ?_, rfl, Nat.succ_pos _, ?_, ?_⟩
  · rw [ofToken?, if_pos hkind, hfound, Option.map_some]
  · exact ⟨found.line, hlies⟩
  · exact hlies.bytesBefore_add_column

theorem about_of_ofToken? (hwarning : ofToken? (Text.lines text) token = some warning) :
    About text token warning := by
  by_cases htoken : reportable text token
  · obtain ⟨other, hother, habout⟩ := exists_ofToken?_of_reportable htoken
    rw [hwarning] at hother
    rwa [Option.some.inj hother]
  · rw [ofToken?_of_not_reportable htoken] at hwarning
    cases hwarning

end ofToken

/-- Each token that begins in the text as an error is warned about, in order. -/
theorem forall₂_collect (text : String) (tokens : List Token) :
    List.Forall₂ (About text) (tokens.filter (reportable text)) (collect text tokens) := by
  unfold collect
  induction tokens with
  | nil => exact .nil
  | cons token tokens ih =>
    by_cases htoken : reportable text token
    · obtain ⟨warning, hwarning, habout⟩ := exists_ofToken?_of_reportable htoken
      rw [List.filter_cons_of_pos htoken, List.filterMap_cons_some hwarning]
      exact .cons habout ih
    · rw [List.filter_cons_of_neg htoken,
        List.filterMap_cons_none (ofToken?_of_not_reportable htoken)]
      exact ih

theorem collect_filter (text : String) (tokens : List Token) :
    collect text (tokens.filter (reportable text)) = collect text tokens := by
  unfold collect
  rw [List.filterMap_filter]
  apply List.filterMap_congr
  intro token _
  split
  · rfl
  · next htoken => exact (ofToken?_of_not_reportable htoken).symm

theorem About.precedes {text : String} {token later : Token} {warning next : Warning}
    (habout : About text token warning) (hnext : About text later next)
    (hlt : token.span.start < later.span.start) : Precedes warning next := by
  obtain ⟨line, hlies⟩ := habout.lies
  obtain ⟨other, hother⟩ := hnext.lies
  have hfirst := habout.column_pos
  have hsecond := hnext.column_pos
  rcases hlies.place_lt hother hlt with hline | ⟨hline, hcolumn⟩
  · exact .inl hline
  · refine .inr ⟨hline, ?_⟩
    change warning.column - 1 < next.column - 1 at hcolumn
    omega

section tokenize

variable (lexer : Lexer) (text : String)

/-- The tokens of a text begin in it. -/
theorem filter_reportable_tokenize : (lexer.tokenize text).filter (reportable text) =
    (lexer.tokenize text).filter (·.kind = .error) := by
  apply List.filter_congr
  intro token htoken
  obtain ⟨before, after, htext, hvalue, hspan⟩ := (lexer.tokenize_tiles text).exists_slices htoken
  have hpos := Nat.pos_of_ne_zero (mt String.utf8ByteSize_eq_zero_iff.1 hvalue)
  have hsize : text.utf8ByteSize =
      before.utf8ByteSize + token.value.utf8ByteSize + after.utf8ByteSize := by
    rw [htext, String.utf8ByteSize_append, String.utf8ByteSize_append]
  have hstart : token.span.start < text.utf8ByteSize := by
    rw [hspan, hsize]
    change before.utf8ByteSize < _
    omega
  simp [reportable, hstart]

theorem pairwise_collect_tokenize :
    (collect text (lexer.tokenize text)).Pairwise Precedes := by
  have hstarts := (lexer.tokenize_tiles text).starts_increasing
  apply hstarts.filterMap
  intro token later hlt warning hwarning next hnext
  exact (about_of_ofToken? hwarning).precedes (about_of_ofToken? hnext) hlt

end tokenize

/-- There is one line for each error token of a text, in their order, and the place that it tells is
where the token starts; the places increase. Among any tokens at all, those that are no errors or
begin outside of the text are passed over, and the others have their lines. -/
theorem report_complete (lexer : Lexer) (text : String) :
    (let errors := (lexer.tokenize text).filter (·.kind = .error)
      let warnings := collect text (lexer.tokenize text)
      warnings.length = errors.length ∧ List.Forall₂ (About text) errors warnings ∧
        warnings.Pairwise Precedes ∧ Tells (report warnings) warnings) ∧
    ∀ tokens : List Token,
      let errors := tokens.filter fun token ↦
        token.kind = .error ∧ token.span.start < text.utf8ByteSize
      let warnings := collect text tokens
      warnings.length = errors.length ∧ List.Forall₂ (About text) errors warnings ∧
        collect text errors = warnings ∧ Tells (report warnings) warnings := by
  have hall := forall₂_collect text (lexer.tokenize text)
  rw [filter_reportable_tokenize] at hall
  refine ⟨⟨hall.length_eq.symm, hall, pairwise_collect_tokenize lexer text, report_tells _⟩, ?_⟩
  intro tokens errors warnings
  have hsome : List.Forall₂ (About text) errors warnings := forall₂_collect text tokens
  exact ⟨hsome.length_eq.symm, hsome, collect_filter text tokens, report_tells _⟩

end LexTable.Warning
