import LexTable.Cli.Run
import LexTable.Proofs.Lexer.Agreement
import LexTable.Proofs.NuShell.Rules
import LexTable.Proofs.Render.Settings

/-!
# How a run of the program ends

A run fails if it asks for a lexer that there is not, if its input cannot be read as text, or if a
style that is needed is no style setting; the first of these is reported, and nothing is written.
Otherwise the tokens of the input are written in the chosen format.
-/

namespace LexTable

namespace Registry

def lowerCase (name : String) : String :=
  String.ofList (Unicode.toLowerCase name.toList)

/-- Case aside, the name is an alias of a built-in lexer. -/
def Registered (name : String) : Prop :=
  ∃ builtin ∈ all, lowerCase name ∈ builtin.info.aliases

theorem lexer_of_mem {builtin : Builtin} (hbuiltin : builtin ∈ all) :
    builtin.lexer = .ok NuShell.ready := by
  obtain rfl := List.mem_singleton.1 hbuiltin
  exact NuShell.lexer_eq

theorem byAlias_of_registered {name : String} (hname : Registered name)
    (preparation : Preparation) :
    byAlias name preparation = .ok (NuShell.ready.withPreparation preparation) := by
  have hsome : (all.find? (·.info.aliases.contains (lowerCase name))).isSome := by
    rw [List.find?_isSome]
    obtain ⟨builtin, hbuiltin, halias⟩ := hname
    exact ⟨builtin, hbuiltin, List.contains_iff_mem.2 halias⟩
  obtain ⟨builtin, hfind⟩ := Option.isSome_iff_exists.1 hsome
  have hlexer := lexer_of_mem (List.mem_of_find?_eq_some hfind)
  unfold lowerCase at hfind
  simp only [byAlias, hfind, hlexer]
  rfl

theorem byAlias_of_not_registered {name : String} (hname : ¬ Registered name)
    (preparation : Preparation) :
    byAlias name preparation = .error (unknown (lowerCase name)) := by
  have hnone : all.find? (·.info.aliases.contains (lowerCase name)) = none := by
    rw [List.find?_eq_none]
    intro builtin hbuiltin halias
    exact hname ⟨builtin, hbuiltin, List.contains_iff_mem.1 halias⟩
  unfold lowerCase at hnone
  simp only [byAlias, hnone]
  rfl

/-- That no lexer claims a file is the only way in which there is none for it. -/
theorem forFile_eq (path : String) (preparation : Preparation) :
    forFile path preparation = .ok (NuShell.ready.withPreparation preparation) ∨
      forFile path preparation = .error (unknown (fileName path)) := by
  unfold forFile
  dsimp only
  split
  · next builtin hfind =>
    rw [lexer_of_mem (List.mem_of_find?_eq_some hfind)]
    exact .inl rfl
  · exact .inr rfl

end Registry

namespace Cli

open Registry StyleSetting

theorem bind_decode_of_eq_ok {input : Except ReadError ByteArray} {source : String}
    (hinput : input = .ok source.toByteArray) : input >>= decode = .ok source := by
  have hdecode : decode source.toByteArray = .ok source := by
    unfold decode String.fromUTF8?
    rw [dif_pos source.isValidUTF8]
    rfl
  rw [hinput]
  exact hdecode

namespace Settings

variable (settings : Settings)

/-- The lexer that is asked for, if one is, is there. -/
def LexerKnown : Prop :=
  ∀ name ∈ settings.lexer?, Registered name

/-- The text that is cut into tokens. -/
def text (source : String) : String :=
  if settings.rawInput then source else settings.preparation.apply source

/-- What is told about unmatched text, if that is asked for. -/
def warnings (text : String) (tokens : List Token) : String :=
  if settings.check then Warning.report (Warning.collect text tokens) else ""

/-- The ways in which a run with the settings may end, each with the exit code, the output and the
messages that are written then, where `lexer` is the lexer for NuShell. -/
inductive Ends (lexer : Lexer) (input : Except ReadError ByteArray) : Outcome → Prop
  | unknownLexer {name : String} (hname : settings.lexer? = some name)
      (hunknown : ¬ Registered name) :
      Ends lexer input ⟨1, "",
        "Error: UnknownLexer (Run with `--list` to see the available lexers)\n-> <null>\n" ++
          "   no lexer found for " ++ Text.quote (lowerCase name) ++ "\n"⟩
  | unreadable {error : ReadError} (hlexer : settings.LexerKnown)
      (hinput : input = .error error) :
      Ends lexer input ⟨1, "", "Error: failed to read input: " ++ error.message ++ "\n"⟩
  | notText {bytes : ByteArray} (hlexer : settings.LexerKnown) (hinput : input = .ok bytes)
      (hbytes : ¬ bytes.IsValidUTF8) :
      Ends lexer input
        ⟨1, "", "Error: failed to read input: stream did not contain valid UTF-8\n"⟩
  | invalidStyle {source setting : String} (hlexer : settings.LexerKnown)
      (hinput : input = .ok source.toByteArray) (hformat : settings.format = .terminal)
      (hsetting : FirstInvalid settings.styles setting) :
      Ends lexer input ⟨1, "",
        settings.warnings (settings.text source) (lexer.tokenize (settings.text source)) ++
          ("Error: invalid style " ++ Text.quote setting ++ ", expected `Category=SGR`\n")⟩
  | raw {source : String} (hlexer : settings.LexerKnown)
      (hinput : input = .ok source.toByteArray) (hformat : settings.format = .raw) :
      Ends lexer input ⟨0, Render.raw (lexer.tokenize (settings.text source)),
        settings.warnings (settings.text source) (lexer.tokenize (settings.text source))⟩
  | terminal {source : String} {styles : List (Kind × String)} (hlexer : settings.LexerKnown)
      (hinput : input = .ok source.toByteArray) (hformat : settings.format = .terminal)
      (hstyles : List.Forall₂ (fun setting style ↦ Sets setting style.1 style.2)
        settings.styles styles) :
      Ends lexer input
        ⟨0, Render.terminal (Theme.standard.setAll styles) (lexer.tokenize (settings.text source)),
          settings.warnings (settings.text source) (lexer.tokenize (settings.text source))⟩

/-- What comes of an input. -/
def conclude (lexer : Lexer) (input : Except ReadError ByteArray) : Outcome :=
  match input >>= decode with
  | .ok source => settings.highlight lexer source
  | .error error => { code := 1, errors := failure ("failed to read input: " ++ error.message) }

variable {settings}

theorem selectLexer_of_known (hlexer : settings.LexerKnown) :
    settings.selectLexer = .ok (NuShell.ready.withPreparation settings.preparation) := by
  have hstandard : byAlias "nu" settings.preparation =
      .ok (NuShell.ready.withPreparation settings.preparation) :=
    byAlias_of_registered ⟨_, List.mem_singleton_self _, by decide⟩ _
  unfold selectLexer
  cases hname : settings.lexer? with
  | some name => exact byAlias_of_registered (hlexer name hname) _
  | none =>
    cases settings.file? with
    | none => exact hstandard
    | some path =>
      dsimp only
      rcases forFile_eq path settings.preparation with hclaimed | hunclaimed
      · rw [hclaimed]
      · rw [hunclaimed]
        exact hstandard

theorem exists_of_not_known (hlexer : ¬ settings.LexerKnown) :
    ∃ name, settings.lexer? = some name ∧ ¬ Registered name := by
  unfold LexerKnown at hlexer
  push Not at hlexer
  exact hlexer

theorem selectLexer_of_unknown {name : String} (hname : settings.lexer? = some name)
    (hunknown : ¬ Registered name) :
    settings.selectLexer = .error (Registry.unknown (lowerCase name)) := by
  unfold selectLexer
  rw [hname]
  exact byAlias_of_not_registered hunknown _

/-- How texts are to be prepared does not change what tokens they have. -/
theorem highlight_eq (source : String) :
    let tokens := NuShell.ready.tokenize (settings.text source)
    settings.highlight (NuShell.ready.withPreparation settings.preparation) source =
      match settings.render tokens with
      | .ok output => ⟨0, output, settings.warnings (settings.text source) tokens⟩
      | .error error =>
        ⟨1, "", settings.warnings (settings.text source) tokens ++ failure error.message⟩ := by
  have hsame : NuShell.ready.SameRules (NuShell.ready.withPreparation settings.preparation) :=
    ⟨rfl, fun _ ↦ rfl⟩
  dsimp only
  rw [← hsame.tokenize_eq]
  rfl

namespace Ends

variable {lexer : Lexer} {input : Except ReadError ByteArray} {outcome : Outcome}

end Ends

end Settings

section run

variable {arguments : List String} {settings : Settings}
  (hsettings : Settings.ofArguments? arguments = some settings) (hlist : settings.list = false)

include hsettings hlist

/-- The input is read once, from the place that the settings name, and all else follows from
it. -/
theorem run_of_known {m : Type → Type} [Monad m] [LawfulMonad m]
    (read : Option String → m (Except ReadError ByteArray)) (hlexer : settings.LexerKnown) :
    run read arguments =
      settings.conclude (NuShell.ready.withPreparation settings.preparation) <$>
        read settings.file? := by
  simp only [run, hsettings, hlist, Settings.selectLexer_of_known hlexer, map_eq_pure_bind]
  apply bind_congr
  intro input
  unfold Settings.conclude
  cases input >>= decode with
  | error error => rfl
  | ok source => rfl

theorem run_of_unknown {m : Type → Type} [Monad m]
    (read : Option String → m (Except ReadError ByteArray)) {name : String}
    (hname : settings.lexer? = some name) (hunknown : ¬ Registered name) :
    run read arguments = pure ⟨1, "", (Registry.unknown (lowerCase name)).report⟩ := by
  simp [run, hsettings, hlist, Settings.selectLexer_of_unknown hname hunknown]

end run

end Cli

end LexTable
