import LexTable.Proofs.Pattern.Words
import LexTable.Proofs.Regex.LookBehind
import LexTable.Proofs.Table.Acceptance
import LexTable.Registry

/-!
# The lexer for NuShell

What the patterns of the NuShell table are read as. The lexer has a single state, which no rule
leaves, and its expressions look at the characters around a match at word boundaries and at line
ends only.
-/

namespace LexTable.NuShell

open RuleTable

def wordSet : CharSet := .property .word

def spaceSet : CharSet := .property .whiteSpace

def digitSet : CharSet := .property .digit

def anyOf (cs : List Char) : CharSet :=
  .unionAll (cs.map .single)

def commentRegex : Regex :=
  .seq (.chars (.single '#')) (.seq (.star true (.chars (.compl (.single '\n')))) (.look .lineEnd))

/-- The keyword `def` alone, white space, and a name. -/
def definitionRegex : Regex :=
  .seq (.group 1 (.lone "def".toList)) (.seq (.group 2 (.run spaceSet)) (.group 3 (.run wordSet)))

/-- One of the words, alone. -/
def wordsRegex (words : List String) : Regex :=
  .seq (.look .wordBoundary) (.seq (WordList.choice words) (.look .wordBoundary))

def nameRegex : Regex :=
  .seq (.chars (.unionAll [.range 'a' 'z', .range 'A' 'Z', .single '_']))
    (.star true (.chars wordSet))

def operatorRegex : Regex :=
  .run (anyOf "-+*/%=<>!&|^~".toList)

def punctuationRegex : Regex :=
  .chars (anyOf "\x7b\x7d[]();,.:".toList)

/-- Text between two quotes. A quote after a backslash need not end it. -/
def quotedRegex (quote : Char) : Regex :=
  .seq (.chars (.single quote))
    (.seq (.star true (.group 1 (.alt (.seq (.chars (.single '\\')) (.chars (.single '\\')))
        (.alt (.seq (.chars (.single '\\')) (.chars (.single quote)))
          (.chars (.compl (.single quote)))))))
      (.chars (.single quote)))

def floatRegex : Regex :=
  .seq (.run digitSet) (.seq (.chars (.single '.')) (.run digitSet))

def tokenRule (regex : Regex) (kind : Kind) : Lexer.Rule :=
  ⟨regex, .token kind, none⟩

def definitionRule : Lexer.Rule :=
  ⟨definitionRegex, .byGroups [.keyword, .whitespace, .nameFunction], none⟩

/-- The rules of the lexer, in their order. -/
def readyRules : List Lexer.Rule :=
  [tokenRule commentRegex .commentSingle,
    definitionRule,
    tokenRule (wordsRegex keywords) .keyword,
    tokenRule (wordsRegex constants) .keywordConstant,
    tokenRule (wordsRegex types) .keywordType,
    tokenRule nameRegex .name,
    tokenRule operatorRegex .operator,
    tokenRule punctuationRegex .punctuation,
    tokenRule (quotedRegex '"') .stringDouble,
    tokenRule (quotedRegex '\'') .stringSingle,
    tokenRule floatRegex .numberFloat,
    tokenRule (.run digitSet) .numberInteger,
    tokenRule (.run spaceSet) .whitespace]

theorem reads_token {pattern : String} {regex : Regex}
    (hparse : Pattern.parse Lexer.ruleFlags pattern.toList = .ok regex) (kind : Kind) :
    table.Reads Lexer.lineReader ⟨pattern, .token kind, none⟩ (tokenRule regex kind) where
  regex_eq := Lexer.lineReader_eq_ok_iff.2 hparse
  action_eq := rfl
  next_eq := rfl
  groups_fit := by simp
  push_mem := by simp

theorem reads_definition : table.Reads Lexer.lineReader
    ⟨"(\\bdef\\b)(\\s+)(\\w+)", .byGroups [.keyword, .whitespace, .nameFunction], none⟩
    definitionRule where
  regex_eq := rfl
  action_eq := rfl
  next_eq := rfl
  groups_fit := by
    rintro kinds ⟨⟩
    decide
  push_mem := by simp

theorem reads_words (words : List String) (kind : Kind) :
    table.Reads Lexer.lineReader (wordRule words kind) (tokenRule (wordsRegex words) kind) :=
  reads_token (WordList.parse_pattern_boundaries words _ rfl) kind

theorem reads_rules : List.Forall₂ (table.Reads Lexer.lineReader) rules readyRules := by
  simp only [rules, readyRules, List.forall₂_cons]
  exact ⟨reads_token rfl _, reads_definition, reads_words _ _, reads_words _ _, reads_words _ _,
    reads_token rfl _, reads_token rfl _, reads_token rfl _, reads_token rfl _, reads_token rfl _,
    reads_token rfl _, reads_token rfl _, reads_token rfl _, .nil⟩

def ready : Lexer :=
  { states := [⟨"root", readyRules⟩], initial := "root" }

theorem lexer_eq : lexer = .ok ready := by
  have hcompiles : List.Forall₂ (table.Compiles Lexer.lineReader) table ready.states :=
    .cons ⟨rfl, rules, expands_rules table rules, reads_rules⟩ .nil
  have hnames : table.names = ["root"] := rfl
  exact build_eq_ok_iff_compiles.2 ⟨by simp [hnames], by simp [hnames], hcompiles, rfl⟩

theorem mem_readyRules {name : String} {rule : Lexer.Rule} (hrule : rule ∈ ready.rulesOf name) :
    rule ∈ readyRules := by
  by_cases hname : "root" = name
  · rwa [← hname] at hrule
  · have hnone : ready.rulesOf name = [] := by simp [Lexer.rulesOf, Lexer.find?, ready, hname]
    rw [hnone] at hrule
    cases hrule

theorem looks_wordsRegex (words : List String) :
    (wordsRegex words).looks = [.wordBoundary, .wordBoundary] := by
  have hchoice : (WordList.choice words).looks = [] := by
    simp [WordList.choice, Regex.text, Regex.characters, Regex.looks_altAll, Regex.looks_seqAll,
      Regex.looks]
  simp [wordsRegex, Regex.looks, hchoice]

theorem looks_readyRules : ∀ rule ∈ readyRules, ∀ l ∈ rule.regex.looks,
    l = .wordBoundary ∨ l = .lineEnd := by
  simp only [readyRules, tokenRule, List.forall_mem_cons, looks_wordsRegex]
  decide

end LexTable.NuShell
