import LexTable.Proofs.Lexer.Tiling
import LexTable.Proofs.NuShell.Matches
import LexTable.Proofs.Pattern.LongestWord
import LexTable.Proofs.Regex.Starts

/-!
# Where NuShell tokens come from

A token is a whole match, a part of a definition, or a single character at which no rule matches.
Which rules may match is seen from the first character: one that is not a quote is enough for a
match or rules it out, whatever comes after it.
-/

namespace LexTable

open Text (byteLength)

namespace NuShell

/-- Letters of the alphabet and the underscore, digits, white space, the sign of a comment,
operators and punctuation: a rule has a match wherever one of these comes next. -/
def leads (c : Char) : Bool :=
  c.isAlpha || c == '_' || Unicode.isDecimalDigit c || Unicode.isWhiteSpace c || c == '#' ||
    "-+*/%=<>!&|^~".toList.contains c || "\x7b\x7d[]();,.:".toList.contains c

/-- The quotes around strings, each with the kind of its strings. -/
def quotes : List (Char × Kind) :=
  [('"', .stringDouble), ('\'', .stringSingle)]

theorem leads_quote : ∀ pair ∈ quotes, leads pair.1 = false := by
  decide +kernel

theorem eq_of_mem_quotes {c : Char} {kind other : Kind} (hkind : (c, kind) ∈ quotes)
    (hother : (c, other) ∈ quotes) : kind = other := by
  simp only [quotes, List.mem_cons, List.not_mem_nil, or_false, Prod.mk.injEq] at hkind hother
  rcases hkind with ⟨rfl, rfl⟩ | ⟨rfl, rfl⟩ <;> simpa [eq_comm] using hother

theorem contains_anyOf (cs : List Char) (c : Char) : (anyOf cs).contains c = cs.contains c := by
  induction cs with
  | nil => rfl
  | cons d ds ih =>
    rw [List.contains_cons, ← ih]
    cases ds with
    | nil => exact (Bool.or_false _).symm
    | cons e es => rfl

theorem isAlpha_of_word : ∀ word ∈ keywords ++ constants ++ types,
    ∀ c ∈ word.toList.head?, c.isAlpha := by
  have hall : (keywords ++ constants ++ types).all
      (fun word ↦ word.front?.all Char.isAlpha) = true := by
    decide +kernel
  intro word hword c hc
  have hword := List.all_eq_true.1 hall word hword
  rw [String.front?_eq, Option.mem_def.1 hc] at hword
  exact hword

theorem begins_wordsRegex {words : List String} {c : Char} (hc : (wordsRegex words).begins c) :
    ∃ word ∈ words, word.toList.head? = some c := by
  have hchoice : (WordList.choice words).begins c := by
    simpa [wordsRegex, Regex.begins, Regex.consumes] using hc
  obtain ⟨r, hr, hc⟩ := (Regex.begins_altAll _ c).1 hchoice
  obtain ⟨word, hword, rfl⟩ := List.mem_map.1 hr
  exact ⟨word, (WordList.mem_longestFirst.1 hword).1, (Regex.begins_text _ c).1 hc⟩

theorem isAlpha_of_begins_wordsRegex {words : List String}
    (hwords : words ⊆ keywords ++ constants ++ types) {c : Char}
    (hc : (wordsRegex words).begins c) : c.isAlpha := by
  obtain ⟨word, hword, hhead⟩ := begins_wordsRegex hc
  exact isAlpha_of_word word (hwords hword) c hhead

theorem steady_readyRules : ∀ rule ∈ readyRules, rule.regex.isSteady := by
  have hwords (words : List String) : (wordsRegex words).isSteady :=
    (WordList.plain_expression words true).steady
  simp only [readyRules, tokenRule, List.forall_mem_cons, hwords]
  decide

/-- With what a name begins. -/
def letterSet : CharSet :=
  .unionAll [.range 'a' 'z', .range 'A' 'Z', .single '_']

theorem contains_letterSet (c : Char) : letterSet.contains c = (c.isAlpha || c == '_') := by
  have hlower : (CharSet.range 'a' 'z').contains c = c.isLower := rfl
  have hupper : (CharSet.range 'A' 'Z').contains c = c.isUpper :=
    (Bool.decide_and ('A' ≤ c) (c ≤ 'Z')).symm
  have halpha : c.isAlpha = (c.isUpper || c.isLower) := rfl
  change ((CharSet.range 'a' 'z').contains c ||
    ((CharSet.range 'A' 'Z').contains c || c == '_')) = _
  rw [hlower, hupper, halpha, ← Bool.or_assoc, Bool.or_comm c.isLower]

/-- A rule that may begin with a character is for a string, or the character leads. -/
theorem begins_readyRules {rule : Lexer.Rule} (hrule : rule ∈ readyRules) {c : Char}
    (hc : rule.regex.begins c) :
    leads c ∨ ∃ kind, (c, kind) ∈ quotes ∧ rule = tokenRule (quotedRegex c) kind := by
  have hwords {words : List String} (hsubset : words ⊆ keywords ++ constants ++ types)
      (hc : (wordsRegex words).begins c) : leads c := by
    simp [leads, isAlpha_of_begins_wordsRegex hsubset hc]
  have hdigit (hc : digitSet.contains c) : leads c := by
    have hc : Unicode.isDecimalDigit c := hc
    simp [leads, hc]
  -- comments, definitions, the three lists of words, names, operators, punctuation, the two kinds
  -- of strings, the two kinds of numbers, white space
  simp only [readyRules, List.mem_cons, List.not_mem_nil, or_false] at hrule
  rcases hrule with rfl | rfl | rfl | rfl | rfl | rfl | rfl | rfl | rfl | rfl | rfl | rfl | rfl
  · obtain rfl : c = '#' := beq_iff_eq.1 (Regex.begins_of_begins_seq rfl hc)
    exact .inl (by decide)
  · have hdef : (Regex.lone "def".toList).begins c := Regex.begins_of_begins_seq rfl hc
    obtain rfl : c = 'd' := by
      simpa [Regex.lone, Regex.characters, Regex.seqAll, Regex.begins, Regex.consumes,
        CharSet.contains] using hdef
    exact .inl (by decide)
  · exact .inl (hwords (by simp) hc)
  · exact .inl (hwords (by simp) hc)
  · exact .inl (hwords (by simp) hc)
  · have hname : letterSet.contains c := Regex.begins_of_begins_seq rfl hc
    rw [contains_letterSet] at hname
    exact .inl (by simp [leads, hname])
  · have hoperator : (anyOf "-+*/%=<>!&|^~".toList).contains c := hc
    rw [contains_anyOf] at hoperator
    exact .inl (by simp only [leads, hoperator, Bool.or_true, Bool.true_or])
  · have hpunctuation : (anyOf "\x7b\x7d[]();,.:".toList).contains c := hc
    rw [contains_anyOf] at hpunctuation
    exact .inl (by simp only [leads, hpunctuation, Bool.or_true])
  · obtain rfl : c = '"' := beq_iff_eq.1 (Regex.begins_of_begins_seq rfl hc)
    exact .inr ⟨.stringDouble, by simp [quotes], rfl⟩
  · obtain rfl : c = '\'' := beq_iff_eq.1 (Regex.begins_of_begins_seq rfl hc)
    exact .inr ⟨.stringSingle, by simp [quotes], rfl⟩
  · exact .inl (hdigit (Regex.begins_of_begins_seq rfl hc))
  · exact .inl (hdigit hc)
  · have hspace : Unicode.isWhiteSpace c := hc
    exact .inl (by simp [leads, hspace])

theorem leads_of_consumes {rule : Lexer.Rule} (hrule : rule ∈ readyRules) {c : Char}
    {done after : List Char} {m : Match} (hconsumes : rule.Consumes done (c :: after) m) :
    leads c ∨ ∃ kind, (c, kind) ∈ quotes ∧ rule = tokenRule (quotedRegex c) kind := by
  obtain ⟨d, hhead, hbegins⟩ :=
    Regex.begins_of_match? (steady_readyRules rule hrule) hconsumes.1 hconsumes.2
  obtain rfl := Option.some.inj hhead
  exact begins_readyRules hrule hbegins

/-- As soon as there is a way through a rule, some rule has a match. -/
theorem not_unmatched (regex : Regex) (kind : Kind) (hrule : tokenRule regex kind ∈ readyRules)
    (hconsumes : regex.consumes) {done rest : List Char}
    (hways : ∀ way : Way, way.rest = rest → regex.ways way ≠ []) :
    ¬ Unmatched readyRules done rest := by
  intro hnone
  let start : Way := ⟨done.getLast?, rest, 0, List.replicate (2 * regex.lastGroup) none⟩
  obtain ⟨after, hafter⟩ := List.exists_mem_of_ne_nil _ (hways start rfl)
  obtain ⟨m, hmatch, hlength⟩ :=
    Regex.exists_match?_of_mem_ways (steady_readyRules _ hrule) hconsumes hafter
  exact hnone _ hrule m ⟨hmatch, hlength⟩

section ways

variable {way : Way} {c : Char} {after : List Char}

theorem ways_run_ne_nil {s : CharSet} (hrest : way.rest = c :: after) (hc : s.contains c) :
    (Regex.run s).ways way ≠ [] := by
  simp [Regex.ways_run, hrest, hc]

theorem ways_nameRegex_ne_nil (hrest : way.rest = c :: after) (hc : letterSet.contains c) :
    nameRegex.ways way ≠ [] := by
  have hways : nameRegex.ways way = _ := Regex.ways_seq_chars hrest hc _
  rw [hways]
  exact List.ne_nil_of_mem (Regex.mem_ways_star ..)

/-- A comment goes on to the end of the line, which is there in any case. -/
theorem ways_commentRegex_ne_nil (hrest : way.rest = '#' :: after) :
    commentRegex.ways way ≠ [] := by
  let kept := CharSet.compl (.single '\n')
  let line := after.takeWhile kept.contains
  have hafter : (way.skip 1).rest = after := by
    rw [Way.skip_rest, hrest, List.drop_one, List.tail_cons]
  have hend : ((way.skip 1).skip line.length).rest = after.dropWhile kept.contains := by
    rw [Way.skip_rest, hafter]
    calc
      _ = (line ++ after.dropWhile kept.contains).drop line.length := by
        rw [List.takeWhile_append_dropWhile]
      _ = _ := List.drop_left
  have hedge : Look.isLineEdge (after.dropWhile kept.contains).head? := by
    have hstop := List.head?_dropWhile_not kept.contains after
    cases hhead : (after.dropWhile kept.contains).head? with
    | none => rfl
    | some d =>
      rw [hhead] at hstop
      simpa [kept, CharSet.contains, Look.isLineEdge] using hstop
  have hways : commentRegex.ways way = _ := Regex.ways_seq_chars hrest rfl _
  rw [hways, Regex.ways, Regex.ways_star_chars, hafter]
  apply List.ne_nil_of_mem (a := (way.skip 1).skip line.length)
  rw [List.mem_flatMap]
  refine ⟨(way.skip 1).skip line.length, ?_, ?_⟩
  · exact List.mem_map_of_mem (List.mem_reverse.2 (List.mem_range.2 (Nat.lt_succ_self _)))
  · rw [Regex.ways, hend, Look.holds, if_pos hedge]
    exact List.mem_singleton_self _

end ways

theorem not_unmatched_of_leads {c : Char} (hc : leads c) (done after : List Char) :
    ¬ Unmatched readyRules done (c :: after) := by
  rw [leads, ← contains_letterSet, ← contains_anyOf, ← contains_anyOf] at hc
  simp only [Bool.or_eq_true, beq_iff_eq] at hc
  rcases hc with ((((hletter | hdigit) | hspace) | rfl) | hoperator) | hpunctuation
  · apply not_unmatched nameRegex .name (by simp [readyRules]) rfl
    intro way hrest
    exact ways_nameRegex_ne_nil hrest hletter
  · apply not_unmatched (.run digitSet) .numberInteger (by simp [readyRules]) rfl
    intro way hrest
    exact ways_run_ne_nil hrest hdigit
  · apply not_unmatched (.run spaceSet) .whitespace (by simp [readyRules]) rfl
    intro way hrest
    exact ways_run_ne_nil hrest hspace
  · apply not_unmatched commentRegex .commentSingle (by simp [readyRules]) rfl
    intro way hrest
    exact ways_commentRegex_ne_nil hrest
  · apply not_unmatched operatorRegex .operator (by simp [readyRules]) rfl
    intro way hrest
    exact ways_run_ne_nil hrest hoperator
  · apply not_unmatched punctuationRegex .punctuation (by simp [readyRules]) rfl
    intro way hrest
    rw [punctuationRegex, Regex.ways, Way.take_eq, hrest, List.head?_cons, Option.any_some,
      if_pos hpunctuation]
    exact List.cons_ne_nil _ _

/-- A rule with a match at a quote is the one for strings in such quotes. -/
theorem eq_of_consumes_at_quote {rule : Lexer.Rule} (hrule : rule ∈ readyRules) {c : Char}
    {kind : Kind} (hquote : (c, kind) ∈ quotes) {done body : List Char} {m : Match}
    (hconsumes : rule.Consumes done (c :: body) m) : rule = tokenRule (quotedRegex c) kind := by
  rcases leads_of_consumes hrule hconsumes with hleads | ⟨other, hother, rfl⟩
  · rw [leads_quote _ hquote] at hleads
    cases hleads
  · rw [eq_of_mem_quotes hquote hother]

/-- How a token with `done` before it comes from the start of `rest`. -/
inductive Arises (done : List Char) : List Char → Token → Prop
  | whole {regex : Regex} {kind : Kind} {rest : List Char} {m : Match}
      (happlies : Applies readyRules done rest (tokenRule regex kind) m) :
      Arises done rest (Token.of kind (byteLength done) (rest.take m.length))
  | keyword (after : List Char) :
      Arises done ("def".toList ++ after) (Token.of .keyword (byteLength done) "def".toList)
  | space {spaces : List Char} (hne : spaces ≠ []) (hspaces : ∀ c ∈ spaces, spaceSet.contains c)
      (after : List Char) :
      Arises done (spaces ++ after) (Token.of .whitespace (byteLength done) spaces)
  | name {letters : List Char} (hne : letters ≠ []) (hletters : ∀ c ∈ letters, wordSet.contains c)
      (after : List Char) :
      Arises done (letters ++ after) (Token.of .nameFunction (byteLength done) letters)
  | error {c : Char} {after : List Char} (hnone : Unmatched readyRules done (c :: after)) :
      Arises done (c :: after) (Token.of .error (byteLength done) [c])

theorem rulesOf_root : ready.rulesOf root.top = readyRules := rfl

theorem exists_arises_of_definition {done spaces letters : List Char} {token : Token}
    (hspaces : spaces ≠ [] ∧ ∀ c ∈ spaces, spaceSet.contains c)
    (hletters : letters ≠ [] ∧ ∀ c ∈ letters, wordSet.contains c)
    (htoken : token ∈ [Token.of .keyword (byteLength done) "def".toList,
      Token.of .whitespace (byteLength done + 3) spaces,
      Token.of .nameFunction (byteLength done + 3 + byteLength spaces) letters])
    (after : List Char) : ∃ left right,
      "def".toList ++ spaces ++ letters ++ after = left ++ right ∧
        Arises (done ++ left) right token := by
  have hdef : byteLength "def".toList = 3 := rfl
  simp only [List.mem_cons, List.not_mem_nil, or_false] at htoken
  rcases htoken with rfl | rfl | rfl
  · refine ⟨[], "def".toList ++ (spaces ++ letters ++ after), ?_, ?_⟩
    · simp only [List.nil_append, List.append_assoc]
    · rw [List.append_nil]
      exact .keyword _
  · refine ⟨"def".toList, spaces ++ (letters ++ after), by simp only [List.append_assoc], ?_⟩
    have harises : Arises (done ++ "def".toList) _ _ :=
      .space hspaces.1 hspaces.2 (letters ++ after)
    rwa [Text.byteLength_append, hdef] at harises
  · refine ⟨"def".toList ++ spaces, letters ++ after, by simp only [List.append_assoc], ?_⟩
    have harises : Arises (done ++ ("def".toList ++ spaces)) _ _ :=
      .name hletters.1 hletters.2 after
    rwa [Text.byteLength_append, Text.byteLength_append, hdef, ← Nat.add_assoc] at harises

theorem exists_arises_of_consumes {done rest : List Char} {length : Nat} {stretch : Stretch}
    (hstep : Consumes ready root done rest length stretch) {token : Token}
    (htoken : token ∈ stretch.tokens) :
    ∃ left right, rest = left ++ right ∧ Arises (done ++ left) right token := by
  cases hstep with
  | @matched rule m happlies =>
    rw [rulesOf_root] at happlies
    have hlength := happlies.fits.length_le
    rcases eq_of_mem_readyRules happlies.mem with rfl | ⟨regex, kind, rfl⟩
    · obtain ⟨spaces, letters, after, rfl, hspaces, hletters, rfl⟩ :=
        definition_match happlies.consumes.1
      rw [take_definition, cut_definition hspaces.1 hletters.1] at htoken
      exact exists_arises_of_definition hspaces hletters htoken after
    · rw [cut_token hlength, List.mem_singleton] at htoken
      obtain rfl := htoken
      exact ⟨[], rest, rfl, by simpa using Arises.whole happlies⟩
  | newline hnone hhead =>
    obtain ⟨after, rfl⟩ := List.head?_eq_some_iff.1 hhead
    exact absurd hnone (not_unmatched_of_leads (by decide) done after)
  | @other c hnone hhead hc =>
    obtain ⟨after, rfl⟩ := List.head?_eq_some_iff.1 hhead
    obtain rfl := List.mem_singleton.1 htoken
    exact ⟨[], c :: after, rfl, by simpa using Arises.error hnone⟩

theorem exists_arises_of_scan {stack : Stack} {done rest : List Char} {scan : List Stretch}
    (hscan : Scan ready stack done rest scan) (hstack : stack = root) {token : Token}
    (htoken : token ∈ scan.flatMap (·.tokens)) :
    ∃ left right, rest = left ++ right ∧ Arises (done ++ left) right token := by
  induction hscan with
  | finish stack done => cases htoken
  | @step stack done rest length stretch stretches hstep hscan ih =>
    subst hstack
    rw [List.flatMap_cons, List.mem_append] at htoken
    rcases htoken with hhere | hlater
    · exact exists_arises_of_consumes hstep hhere
    · obtain ⟨left, right, hsplit, harises⟩ := ih (consumes_makes hstep).1 hlater
      refine ⟨rest.take length ++ left, right, ?_, ?_⟩
      · rw [List.append_assoc, ← hsplit, List.take_append_drop]
      · rwa [← List.append_assoc]

theorem exists_arises {text : String} {token : Token} (htoken : token ∈ ready.tokenize text) :
    ∃ done rest, text.toList = done ++ rest ∧ Arises done rest token := by
  obtain ⟨scan, hscan⟩ := (Cursor.At.start ready text).exists_scan
  rw [hscan.tokenize_eq] at htoken
  exact exists_arises_of_scan hscan rfl htoken

theorem Arises.start_eq {done rest : List Char} {token : Token} (harises : Arises done rest token) :
    token.span.start = byteLength done := by
  cases harises <;> rfl

theorem arises_of_start {text : String} {token : Token} (htoken : token ∈ ready.tokenize text)
    {left right : List Char} (htext : text.toList = left ++ right)
    (hstart : token.span.start = byteLength left) : Arises left right token := by
  obtain ⟨done, rest, hsplit, harises⟩ := exists_arises htoken
  obtain ⟨rfl, rfl⟩ := Text.append_inj_of_byteLength_eq (htext.symm.trans hsplit)
    (hstart.symm.trans harises.start_eq)
  exact harises

end NuShell

end LexTable
