import LexTable.Proofs.Cli.Outcome
import LexTable.Proofs.NuShell.Fallback
import LexTable.Proofs.Preparation.Content
import LexTable.Proofs.Warning.Report

/-!
# Places of warnings in the input

Warnings name places of the text that was prepared. Where neither tabs nor line endings are replaced
preparation only cuts newlines before and behind the lines of the input. So the column of a warning
is the one in the input, and its line is too, except that the newlines at the start of the input are
not counted.
-/

namespace LexTable

open Text (byteLength lastLine EndsLine)

namespace Cli

open Registry

/-- The newlines at the start of a text. -/
def leadingNewlines (source : String) : List Char :=
  source.toList.takeWhile (· == '\n')

/-- The token is one character of the input, and the warning names its line, not counting as many
lines as are `skipped`, and its column. -/
def Locates (source : String) (skipped : Nat) (token : Token) (warning : Warning) : Prop :=
  ∃ before c after, source.toList = before ++ c :: after ∧ token.value = String.singleton c ∧
    byteLength before = skipped + token.span.start ∧ warning.value = token.value ∧
    warning.line + skipped = before.count '\n' + 1 ∧
    warning.column = byteLength (lastLine before) + 1

section leadingNewlines

variable (source : String)

theorem eq_newline_of_mem_leading : ∀ c ∈ leadingNewlines source, c = '\n' := by
  intro c hc
  have hnewline : (c == '\n') = true := List.mem_takeWhile_imp (p := (· == '\n')) hc
  exact beq_iff_eq.1 hnewline

theorem endsLine_leading : EndsLine (leadingNewlines source) :=
  fun c hc ↦ eq_newline_of_mem_leading source c (List.mem_of_getLast? hc)

theorem count_leading : (leadingNewlines source).count '\n' = (leadingNewlines source).length :=
  List.count_eq_length.2 fun c hc ↦ (eq_newline_of_mem_leading source c hc).symm

theorem byteLength_leading :
    byteLength (leadingNewlines source) = (leadingNewlines source).length := by
  have hall (cs : List Char) (hcs : ∀ c ∈ cs, c = '\n') : byteLength cs = cs.length := by
    induction cs with
    | nil => rfl
    | cons c cs ih =>
      obtain ⟨rfl, hrest⟩ := List.forall_mem_cons.1 hcs
      rw [byteLength, ih hrest, List.length_cons, Nat.add_comm]
      rfl
  exact hall _ (eq_newline_of_mem_leading source)

end leadingNewlines

/-- A character that is not behind a text is in it. -/
theorem exists_eq_append_of_not_mem {c : Char} {left right piece ending : List Char}
    (hsame : left ++ c :: right = piece ++ ending) (hc : c ∉ ending) :
    ∃ more, piece = left ++ c :: more := by
  rcases List.append_eq_append_iff.1 hsame with ⟨front, hfront, hrest⟩ | ⟨back, -, rfl⟩
  · cases front with
    | nil =>
      rw [List.nil_append] at hrest
      exact absurd (hrest ▸ List.mem_cons_self) hc
    | cons d more =>
      obtain ⟨rfl, -⟩ := List.cons.inj hrest
      exact ⟨more, hfront⟩
  · exact absurd (List.mem_append_right back List.mem_cons_self) hc

section locates

variable {p : Preparation} (hcuts : p.cuts = (· == '\n')) (hsize : p.tabSize = 0)
  {source : String} (hreturns : '\r' ∉ source.toList) (hmark : '\ufeff' ∉ source.toList)
  {token : Token} (htoken : token ∈ NuShell.ready.tokenize (p.apply source))
  (herror : token.kind = .error)

include hcuts hsize hreturns hmark htoken herror

/-- An error of the prepared text is a character of the input, behind the leading newlines. -/
theorem exists_split_of_error : ∃ left c right after,
    token = Token.of .error (byteLength left) [c] ∧
      (p.apply source).toList = left ++ c :: right ∧
      source.toList = leadingNewlines source ++ left ++ c :: after := by
  obtain ⟨left, c, right, htext, hof, hc⟩ := NuShell.exists_of_error htoken herror
  have hhead : source.toList.head? ≠ some '\ufeff' := fun hhead ↦ hmark (List.mem_of_head? hhead)
  have hunified :
      Preparation.unifyNewlines (Preparation.dropMark source.toList) = source.toList := by
    rw [Preparation.dropMark_eq_self hhead, Preparation.unifyNewlines_eq_self hreturns]
  obtain ⟨piece, trailing, ending, hsource, -, hprepared, hending⟩ :=
    Preparation.exists_piece_behind hsize source.toList
  rw [hunified, hcuts] at hsource
  have hnot : c ∉ ending := by
    rcases hending with rfl | ⟨-, rfl⟩
    · exact List.not_mem_nil
    · exact mt List.mem_singleton.1 hc
  have hsame : left ++ c :: right = piece ++ ending := by
    rw [← htext, Preparation.toList_apply, hprepared]
  obtain ⟨more, rfl⟩ := exists_eq_append_of_not_mem hsame hnot
  refine ⟨left, c, right, more ++ trailing, hof, htext, ?_⟩
  calc
    _ = leadingNewlines source ++ (left ++ c :: more) ++ trailing := hsource
    _ = _ := by simp

theorem locates_of_about {warning : Warning}
    (habout : Warning.About (p.apply source) token warning) :
    Locates source (leadingNewlines source).length token warning := by
  obtain ⟨left, c, right, after, rfl, htext, hsource⟩ :=
    exists_split_of_error hcuts hsize hreturns hmark htoken herror
  obtain ⟨line, hlies⟩ := habout.lies
  obtain ⟨hline, hcolumn⟩ := hlies.eq_of_split htext rfl
  have hpos := habout.column_pos
  refine ⟨leadingNewlines source ++ left, c, after, hsource, rfl, ?_, habout.value_eq, ?_, ?_⟩
  · rw [Text.byteLength_append, byteLength_leading]
    rfl
  · rw [List.count_append, count_leading]
    change warning.line = _ at hline
    omega
  · rw [Text.lastLine_append (endsLine_leading source), ← hcolumn]
    change warning.column = warning.column - 1 + 1
    omega

end locates

section run

variable {arguments : List String} {settings : Settings}
  (hsettings : Settings.ofArguments? arguments = some settings) (hlist : settings.list = false)

include hsettings hlist

theorem run_eq_highlight (hlexer : settings.LexerKnown)
    (read : Option String → Except ReadError ByteArray) {source : String}
    (hread : read settings.file? = .ok source.toByteArray) :
    (run (m := Id) read arguments : Outcome) =
      settings.highlight (NuShell.ready.withPreparation settings.preparation) source :=
  calc
    _ = settings.conclude (NuShell.ready.withPreparation settings.preparation)
        (read settings.file?) := run_of_known (m := Id) hsettings hlist read hlexer
    _ = _ := by rw [Settings.conclude, bind_decode_of_eq_ok hread]

/-- A listing never fails. -/
theorem run_eq_of_raw (hlexer : settings.LexerKnown) (hformat : settings.format = .raw)
    (read : Option String → Except ReadError ByteArray) {source : String}
    (hread : read settings.file? = .ok source.toByteArray) :
    let text := settings.text source
    let tokens := NuShell.ready.tokenize text
    (run (m := Id) read arguments : Outcome) =
      ⟨0, Render.raw tokens, settings.warnings text tokens⟩ := by
  intro text tokens
  rw [run_eq_highlight hsettings hlist hlexer read hread, Settings.highlight_eq, Settings.render,
    hformat]

/-- The warnings come first among the messages, and alone if the run succeeds. -/
theorem exists_errors_eq (hlexer : settings.LexerKnown)
    (read : Option String → Except ReadError ByteArray) {source : String}
    (hread : read settings.file? = .ok source.toByteArray) :
    let text := settings.text source
    let outcome : Outcome := run (m := Id) read arguments
    ∃ rest, outcome.errors = settings.warnings text (NuShell.ready.tokenize text) ++ rest ∧
      (outcome.code = 0 → rest = "") := by
  intro text outcome
  have houtcome : outcome = _ := run_eq_highlight hsettings hlist hlexer read hread
  rw [houtcome, Settings.highlight_eq]
  cases settings.render (NuShell.ready.tokenize text) with
  | ok output => exact ⟨"", (String.append_empty).symm, fun _ ↦ rfl⟩
  | error error => exact ⟨failure error.message, rfl, fun hcode ↦ absurd hcode Nat.one_ne_zero⟩

/-- A check warns about each error of the prepared input, in a line of its own. The line tells the
column of the character in the input, and its line but for the newlines at the start of the input,
which are not counted. If the lexer is not there, there are no warnings. -/
theorem check_locates (hcheck : settings.check = true) (hraw : settings.rawInput = false)
    (htabs : settings.tabSize = 0) {source : String} (hreturns : '\r' ∉ source.toList)
    (hmark : '\ufeff' ∉ source.toList) (read : Option String → Except ReadError ByteArray)
    (hread : read settings.file? = .ok source.toByteArray) :
    let outcome : Outcome := run (m := Id) read arguments
    ∃ lexer warnings rest, NuShell.lexer = .ok lexer ∧
      outcome.errors = Warning.report warnings ++ rest ∧
      Warning.Tells (Warning.report warnings) warnings ∧ (outcome.code = 0 → rest = "") ∧
      (settings.LexerKnown →
        List.Forall₂ (Locates source (leadingNewlines source).length)
          ((lexer.tokenize (settings.preparation.apply source)).filter (·.kind = .error))
          warnings) ∧
      (¬ settings.LexerKnown → warnings = []) := by
  intro outcome
  by_cases hlexer : settings.LexerKnown
  · obtain ⟨rest, herrors, hcode⟩ := exists_errors_eq hsettings hlist hlexer read hread
    have htext : settings.text source = settings.preparation.apply source := by
      rw [Settings.text, hraw]
      rfl
    rw [Settings.warnings, if_pos hcheck, htext] at herrors
    refine ⟨NuShell.ready, _, rest, NuShell.lexer_eq, herrors, Warning.report_tells _, hcode,
      fun _ ↦ ?_, fun hnot ↦ absurd hlexer hnot⟩
    have habout := Warning.forall₂_collect (settings.preparation.apply source)
      (NuShell.ready.tokenize (settings.preparation.apply source))
    rw [Warning.filter_reportable_tokenize] at habout
    rw [List.forall₂_iff_zip] at habout ⊢
    refine ⟨habout.1, ?_⟩
    intro token warning hmem
    obtain ⟨htoken, hkind⟩ := List.mem_filter.1 (List.of_mem_zip hmem).1
    exact locates_of_about rfl htabs hreturns hmark htoken (of_decide_eq_true hkind)
      (habout.2 hmem)
  · obtain ⟨name, hname, hunknown⟩ := Settings.exists_of_not_known hlexer
    have hrun : outcome = ⟨1, "", (Registry.unknown (lowerCase name)).report⟩ :=
      run_of_unknown (m := Id) hsettings hlist read hname hunknown
    refine ⟨NuShell.ready, [], outcome.errors, NuShell.lexer_eq, (String.empty_append).symm,
      Warning.report_tells [], ?_, fun hknown ↦ absurd hknown hlexer, fun _ ↦ rfl⟩
    intro hcode
    rw [hrun] at hcode
    cases hcode

end run

/-- Two newlines are cut, so that the warning is two lines short. -/
theorem check_locates_skipped :
    let settings : Settings := { format? := some .raw, check := true }
    let source := "\n\n[\n  @"
    let outcome : Outcome :=
      run (m := Id) (fun _ ↦ .ok source.toByteArray) ["--check", "-f", "raw"]
    (Settings.ofArguments? ["--check", "-f", "raw"] = some settings ∧ settings.list = false ∧
      settings.check = true ∧ settings.rawInput = false ∧ settings.tabSize = 0 ∧
      '\r' ∉ source.toList ∧ '\ufeff' ∉ source.toList) ∧
    ∃ warning : Warning, outcome.errors = Warning.report [warning] ∧ warning.line + 2 = 4 ∧
      warning.column = 3 := by
  intro settings source outcome
  have hsettings : Settings.ofArguments? ["--check", "-f", "raw"] = some settings := by decide
  have hreturns : '\r' ∉ source.toList := by decide
  have hmark : '\ufeff' ∉ source.toList := by decide
  have hlexer : settings.LexerKnown := by rintro name ⟨⟩
  refine ⟨⟨hsettings, rfl, rfl, rfl, rfl, hreturns, hmark⟩, ?_⟩
  obtain ⟨lexer, warnings, rest, hready, herrors, -, hrest, hlocates, -⟩ :=
    check_locates hsettings rfl rfl rfl rfl hreturns hmark (fun _ ↦ .ok source.toByteArray) rfl
  obtain rfl : NuShell.ready = lexer := Except.ok.inj (NuShell.lexer_eq.symm.trans hready)
  have houtcome := run_eq_of_raw hsettings rfl hlexer rfl (fun _ ↦ .ok source.toByteArray) rfl
  have htokens : (NuShell.ready.tokenize (settings.preparation.apply source)).filter
      (·.kind = .error) = [⟨.error, "@", ⟨4, 5⟩⟩] := by decide +kernel
  have hskipped : (leadingNewlines source).length = 2 := by decide
  have hall := hlocates hlexer
  rw [htokens, hskipped] at hall
  obtain ⟨warning, others, ⟨before, c, after, hsplit, -, hlength, -, hline, hcolumn⟩, hnil, rfl⟩ :=
    List.forall₂_cons_left_iff.1 hall
  obtain rfl := List.forall₂_nil_left_iff.1 hnil
  have hsource : source.toList = "\n\n[\n  ".toList ++ ['@'] := by decide
  rw [hsource] at hsplit
  obtain ⟨rfl, -⟩ := Text.append_inj_of_byteLength_eq hsplit hlength.symm
  refine ⟨warning, ?_, hline, hcolumn⟩
  rw [herrors, hrest (congrArg Outcome.code houtcome), String.append_empty]

/-- The only error stands in the second line, and the warning names the first one. -/
theorem leading_newline_not_counted :
    let source := "\n@"
    let outcome : Outcome :=
      run (m := Id) (fun _ ↦ .ok source.toByteArray) ["--check", "-f", "raw"]
    outcome.errors = "warning: 1:1: no rule matched \"@\"\n" ∧
      ∀ before after, source.toList = before ++ '@' :: after → before.count '\n' + 1 = 2 := by
  intro source outcome
  refine ⟨?_, ?_⟩
  · have hsettings : Settings.ofArguments? ["--check", "-f", "raw"] =
        some { format? := some .raw, check := true } := by decide
    have htokens : NuShell.ready.tokenize (Preparation.apply {} source) =
        [⟨.error, "@", ⟨0, 1⟩⟩, ⟨.whitespace, "\n", ⟨1, 2⟩⟩] := by decide +kernel
    have htext : Settings.text { format? := some .raw, check := true } source =
        Preparation.apply {} source := rfl
    have houtcome : outcome = _ :=
      run_eq_of_raw hsettings rfl (by rintro name ⟨⟩) rfl (fun _ ↦ .ok source.toByteArray) rfl
    rw [houtcome, htext, htokens]
    decide +kernel
  · intro before after hsplit
    have hsource : source.toList = ['\n', '@'] := by decide
    rw [hsource] at hsplit
    cases before with
    | nil => cases hsplit
    | cons c before =>
      obtain ⟨rfl, hrest⟩ := List.cons.inj hsplit
      cases before with
      | nil => rfl
      | cons d before =>
        have hnil := (List.cons.inj hrest).2
        simp at hnil

end Cli

end LexTable
