import LexTable.Proofs.Lexer.Tiling
import LexTable.Proofs.Text.Lines
import LexTable.Render.Terminal

/-!
# Colored text is the text

Colored text is the text itself with runs of it colored: a run is not empty, has no newline, and
its style begins right before it and ends right after it. So every line stands by itself, and where
the text has no escape characters, it comes back when the graphics sequences are deleted.
-/

namespace LexTable.Render

/-- The characters of the parameters of a graphics sequence. -/
def isParameter (c : Char) : Bool :=
  c.isDigit || c == ';'

/-- How many characters the graphics sequence at the start of a text takes up, 0 if there is
none. -/
def sequenceLength : List Char → Nat
  | c :: '[' :: cs =>
    let parameters := cs.takeWhile isParameter
    if c = escape ∧ (cs.drop parameters.length).head? = some 'm' then parameters.length + 3 else 0
  | _ => 0

/-- The text without its graphics sequences, where the first `skip` characters belong to the
sequence before. -/
def eraseFrom : Nat → List Char → List Char
  | _, [] => []
  | skip + 1, _ :: cs => eraseFrom skip cs
  | 0, c :: cs =>
    match sequenceLength (c :: cs) with
    | 0 => c :: eraseFrom 0 cs
    | width + 1 => eraseFrom width cs

def eraseColors (cs : List Char) : List Char :=
  eraseFrom 0 cs

/-- `shown` is `text` with runs of it colored in styles of the theme. -/
inductive Painted (theme : Theme) : List Char → List Char → Prop
  | nil : Painted theme [] []
  | plain (c : Char) {text shown : List Char} (hrest : Painted theme text shown) :
      Painted theme (c :: text) (c :: shown)
  | run {kind : Kind} {style : String} {piece text shown : List Char}
      (hstyle : theme.style? kind = some style) (hne : piece ≠ []) (hline : '\n' ∉ piece)
      (hrest : Painted theme text shown) :
      Painted theme (piece ++ text) (opening style ++ piece ++ reset ++ shown)

/-- A style of digits and semicolons. -/
def Numeric (style : String) : Prop :=
  ∀ c ∈ style.toList, isParameter c

theorem numeric_of_style? {theme : Theme}
    (htheme : ∀ kind style, theme.own kind = some style → Numeric style) {kind : Kind}
    {style : String} (hstyle : theme.style? kind = some style) : Numeric style := by
  obtain ⟨ancestor, -, hown⟩ := List.exists_of_findSome?_eq_some hstyle
  exact htheme ancestor style hown

theorem colorLine_newline (style : String) (body : List Char) :
    colorLine style (body ++ ['\n']) =
      (if body.isEmpty then [] else opening style ++ body ++ reset) ++ ['\n'] := by
  simp [colorLine]

theorem colorLine_last (style : String) {body : List Char} (hbody : '\n' ∉ body) (hne : body ≠ []) :
    colorLine style body = opening style ++ body ++ reset := by
  have hlast : body.getLast? ≠ some '\n' := by
    intro hlast
    exact hbody (List.mem_of_getLast? hlast)
  simp [colorLine, hlast, hne]

namespace Painted

variable {theme : Theme} {text shown : List Char}

theorem refl (theme : Theme) (text : List Char) : Painted theme text text := by
  induction text with
  | nil => exact .nil
  | cons c text ih => exact .plain c ih

theorem append {more others : List Char} (hpainted : Painted theme text shown)
    (hmore : Painted theme more others) : Painted theme (text ++ more) (shown ++ others) := by
  induction hpainted with
  | nil => exact hmore
  | plain c _ ih => exact .plain c ih
  | run hstyle hne hline _ ih =>
    rw [List.append_assoc, List.append_assoc]
    exact .run hstyle hne hline ih

theorem single {kind : Kind} {style : String} {piece : List Char}
    (hstyle : theme.style? kind = some style) (hne : piece ≠ []) (hline : '\n' ∉ piece) :
    Painted theme piece (opening style ++ piece ++ reset) := by
  have hrun := Painted.run hstyle hne hline .nil
  rwa [List.append_nil, List.append_nil] at hrun

theorem colored {kind : Kind} {style : String} (hstyle : theme.style? kind = some style)
    (text : List Char) :
    Painted theme text ((Text.splitLines text).flatMap (colorLine style)) := by
  induction text using Text.linesInduction with
  | nil => exact .nil
  | last body hbody hne =>
    rw [Text.splitLines_of_not_mem hbody hne, List.flatMap_singleton,
      colorLine_last style hbody hne]
    exact single hstyle hne hbody
  | line body rest hbody ih =>
    rw [Text.splitLines_append hbody, List.flatMap_cons, colorLine_newline, List.append_assoc]
    split
    · next hempty =>
      rw [List.isEmpty_iff.1 hempty]
      exact .plain '\n' ih
    · next hne =>
      exact (single hstyle (by simpa using hne) hbody).append (.plain '\n' ih)

theorem terminalToken (theme : Theme) (token : Token) :
    Painted theme token.value.toList (terminalToken theme token) := by
  unfold Render.terminalToken
  cases hstyle : theme.style? token.kind with
  | none => exact refl theme _
  | some style => exact colored hstyle _

theorem terminal (theme : Theme) (tokens : List Token) :
    Painted theme (tokens.flatMap (·.value.toList)) (Render.terminal theme tokens).toList := by
  rw [Render.terminal, String.toList_ofList]
  induction tokens with
  | nil => exact .nil
  | cons token tokens ih => exact (terminalToken theme token).append ih

end Painted

theorem eraseFrom_length (skipped cs : List Char) :
    eraseFrom skipped.length (skipped ++ cs) = eraseFrom 0 cs := by
  induction skipped with
  | nil => rfl
  | cons c skipped ih => exact ih

theorem eraseFrom_cons {c : Char} (hc : c ≠ escape) (cs : List Char) :
    eraseFrom 0 (c :: cs) = c :: eraseFrom 0 cs := by
  have hzero : sequenceLength (c :: cs) = 0 := by
    unfold sequenceLength
    split
    · next heq =>
      obtain ⟨rfl, -⟩ := List.cons.inj heq
      simp [hc]
    · rfl
  rw [eraseFrom, hzero]

theorem eraseFrom_append {piece : List Char} (hpiece : escape ∉ piece) (cs : List Char) :
    eraseFrom 0 (piece ++ cs) = piece ++ eraseFrom 0 cs := by
  induction piece with
  | nil => rfl
  | cons c piece ih =>
    rw [List.mem_cons, not_or] at hpiece
    rw [List.cons_append, eraseFrom_cons (Ne.symm hpiece.1), ih hpiece.2]
    rfl

namespace Numeric

variable {style : String}

theorem of_all (hall : style.toList.all isParameter) : Numeric style :=
  List.all_eq_true.1 hall

theorem reset : Numeric "39;49;00" :=
  of_all (by decide)

theorem newline_not_mem (hstyle : Numeric style) : '\n' ∉ opening style := by
  have hparameters : '\n' ∉ style.toList := by
    intro hmem
    exact absurd (hstyle _ hmem) (by decide)
  simp [opening, hparameters, escape]

theorem sequenceLength_opening (hstyle : Numeric style) (rest : List Char) :
    sequenceLength (opening style ++ rest) = (opening style).length := by
  have htake : (style.toList ++ 'm' :: rest).takeWhile isParameter = style.toList := by
    rw [List.takeWhile_append_of_pos hstyle]
    simp [isParameter]
  simp [opening, sequenceLength, htake]

theorem eraseFrom_opening (hstyle : Numeric style) (rest : List Char) :
    eraseFrom 0 (opening style ++ rest) = eraseFrom 0 rest := by
  have hopening : opening style = escape :: ('[' :: style.toList ++ ['m']) := rfl
  have hlength := hstyle.sequenceLength_opening rest
  rw [hopening, List.length_cons] at hlength
  rw [hopening, ← eraseFrom_length ('[' :: style.toList ++ ['m']) rest, List.cons_append,
    eraseFrom.eq_def]
  dsimp only
  rw [List.cons_append] at hlength
  rw [hlength]

end Numeric

namespace Painted

variable {theme : Theme} {text shown : List Char}

theorem count_newline (htheme : ∀ kind style, theme.own kind = some style → Numeric style)
    (hpainted : Painted theme text shown) : shown.count '\n' = text.count '\n' := by
  induction hpainted with
  | nil => rfl
  | plain c _ ih => rw [List.count_cons, List.count_cons, ih]
  | run hstyle _ _ _ ih =>
    have hopening := (numeric_of_style? htheme hstyle).newline_not_mem
    have hreset : '\n' ∉ reset := by decide
    simp [List.count_append, List.count_eq_zero_of_not_mem, hopening, hreset, ih]

/-- Each line of the text is colored by itself. -/
theorem lines (htheme : ∀ kind style, theme.own kind = some style → Numeric style)
    (hpainted : Painted theme text shown) :
    List.Forall₂ (Painted theme) (Text.splitLines text) (Text.splitLines shown) := by
  have hfirst {lines others : List (List Char)}
      (hlines : List.Forall₂ (Painted theme) lines others) :
      Painted theme (lines.headD []) (others.headD []) ∧
        List.Forall₂ (Painted theme) lines.tail others.tail := by
    cases hlines with
    | nil => exact ⟨.nil, .nil⟩
    | cons hline hrest => exact ⟨hline, hrest⟩
  induction hpainted with
  | nil => exact .nil
  | plain c _ ih =>
    by_cases hc : c = '\n'
    · rw [hc, Text.splitLines_newline_cons, Text.splitLines_newline_cons]
      exact .cons (.plain '\n' .nil) ih
    · rw [Text.splitLines_cons_of_ne hc, Text.splitLines_cons_of_ne hc]
      exact .cons (.plain c (hfirst ih).1) (hfirst ih).2
  | @run kind style piece text shown hstyle hne hline _ ih =>
    have hcolored : '\n' ∉ opening style ++ piece ++ reset := by
      have hopening := (numeric_of_style? htheme hstyle).newline_not_mem
      have hreset : '\n' ∉ reset := by decide
      simp [hopening, hline, hreset]
    rw [Text.splitLines_prepend hline hne, Text.splitLines_prepend hcolored (by simp [opening])]
    exact .cons (.run hstyle hne hline (hfirst ih).1) (hfirst ih).2

/-- Where the text has no escape characters, only what coloring has put in is deleted. -/
theorem eraseColors (htheme : ∀ kind style, theme.own kind = some style → Numeric style)
    (hpainted : Painted theme text shown) (hescape : escape ∉ text) : eraseColors shown = text := by
  unfold Render.eraseColors
  induction hpainted with
  | nil => rfl
  | plain c _ ih =>
    rw [List.mem_cons, not_or] at hescape
    rw [eraseFrom_cons (Ne.symm hescape.1), ih hescape.2]
  | run hstyle _ _ _ ih =>
    rw [List.mem_append, not_or] at hescape
    have hreset : reset = opening "39;49;00" := rfl
    rw [List.append_assoc, List.append_assoc, (numeric_of_style? htheme hstyle).eraseFrom_opening,
      eraseFrom_append hescape.1, hreset, Numeric.reset.eraseFrom_opening, ih hescape.2]

end Painted

theorem terminalToken_cut (theme : Theme) (kind : Kind) (front back : String)
    (whole first second : Span) :
    terminalToken theme ⟨kind, front ++ "\n" ++ back, whole⟩ =
      terminalToken theme ⟨kind, front ++ "\n", first⟩ ++
        terminalToken theme ⟨kind, back, second⟩ := by
  have hwhole : (front ++ "\n" ++ back).toList = front.toList ++ '\n' :: back.toList := by simp
  have hfirst : (front ++ "\n").toList = front.toList ++ ['\n'] := by simp
  unfold terminalToken
  dsimp only
  rw [hwhole, hfirst]
  cases theme.style? kind with
  | none => simp
  | some style =>
    dsimp only
    rw [Text.splitLines_append_newline, List.flatMap_append]

theorem terminal_plain (tokens : List Token) :
    terminal Theme.plain tokens = String.join (tokens.map (·.value)) := by
  have hstyle (kind : Kind) : Theme.plain.style? kind = none := by
    simp [Theme.style?, Theme.plain]
  apply String.toList_injective
  rw [String.toList_join, List.flatMap_map, terminal, String.toList_ofList]
  apply List.flatMap_congr
  intro token _
  rw [terminalToken, hstyle]

/-- In a theme of digits and semicolons, the text is shown with runs of it colored, line by line,
and without a newline more or less; a token can be cut after a newline without a change in what is
shown; and with no escape character in the text, deleting the graphics sequences gives it back. The
theme without styles shows the text itself. -/
theorem terminal_colors_runs {theme : Theme}
    (htheme : ∀ kind style, theme.own kind = some style → Numeric style) :
    (∀ tokens,
      let text := tokens.flatMap (·.value.toList)
      let shown := (terminal theme tokens).toList
      Painted theme text shown ∧ shown.count '\n' = text.count '\n' ∧
        List.Forall₂ (Painted theme) (Text.splitLines text) (Text.splitLines shown) ∧
        ((∀ token ∈ tokens, escape ∉ token.value.toList) → eraseColors shown = text)) ∧
    (∀ before after kind front back whole first second,
      terminal theme (before ++ ⟨kind, front ++ "\n" ++ back, whole⟩ :: after) =
        terminal theme
          (before ++ ⟨kind, front ++ "\n", first⟩ :: ⟨kind, back, second⟩ :: after)) ∧
    (∀ tokens, terminal Theme.plain tokens = String.join (tokens.map (·.value))) ∧
    ∀ (lexer : Lexer) text, escape ∉ text.toList →
      eraseColors (terminal theme (lexer.tokenize text)).toList = text.toList := by
  refine ⟨?_, ?_, terminal_plain, ?_⟩
  · intro tokens text shown
    have hpainted := Painted.terminal theme tokens
    refine ⟨hpainted, hpainted.count_newline htheme, hpainted.lines htheme, ?_⟩
    intro hescape
    apply hpainted.eraseColors htheme
    rw [List.mem_flatMap]
    rintro ⟨token, htoken, hmem⟩
    exact hescape token htoken hmem
  · intro before after kind front back whole first second
    apply String.toList_injective
    simp only [terminal, String.toList_ofList, List.flatMap_append, List.flatMap_cons,
      List.append_assoc, terminalToken_cut theme kind front back whole first second]
  · intro lexer text hescape
    have hpainted := Painted.terminal theme (lexer.tokenize text)
    rw [(lexer.tokenize_tiles text).flatMap_value] at hpainted
    exact hpainted.eraseColors htheme hescape

theorem terminal_colors_runs_comment :
    (∀ kind style, Theme.standard.own kind = some style → Numeric style) ∧
    (∀ token ∈ ([⟨.comment, "# a\n\nb", ⟨0, 6⟩⟩, ⟨.name, "c", ⟨6, 7⟩⟩] : List Token),
      escape ∉ token.value.toList) ∧
    eraseColors (terminal Theme.standard
      [⟨.comment, "# a\n\nb", ⟨0, 6⟩⟩, ⟨.name, "c", ⟨6, 7⟩⟩]).toList = "# a\n\nbc".toList := by
  have hstandard : ∀ kind style, Theme.standard.own kind = some style → Numeric style := by
    intro kind style hown
    cases kind <;> cases hown <;> exact .of_all (by decide)
  have hescape : ∀ token ∈ ([⟨.comment, "# a\n\nb", ⟨0, 6⟩⟩, ⟨.name, "c", ⟨6, 7⟩⟩] : List Token),
      escape ∉ token.value.toList := by
    decide
  obtain ⟨-, -, -, herase⟩ := (terminal_colors_runs hstandard).1
    [⟨.comment, "# a\n\nb", ⟨0, 6⟩⟩, ⟨.name, "c", ⟨6, 7⟩⟩]
  exact ⟨hstandard, hescape, herase hescape⟩

end LexTable.Render
