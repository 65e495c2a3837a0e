import LexTable.Proofs.NuShell.Tokens
import LexTable.Proofs.Regex.Endings

/-!
# Where NuShell tokens end

No word, number, operator, blank run or comment is cut in two: what comes after such a token could
not have been part of it. The runs in the patterns are greedy, every word of the table ends with a
character of words and is read up to a word boundary, and no white space is part of a word.
-/

namespace LexTable

open Text (byteLength)

namespace Unicode

theorem exists_mem_of_inRanges {code : Nat} {ranges : List (Nat × Nat)}
    (hcode : inRanges code ranges) : ∃ range ∈ ranges, range.1 ≤ code ∧ code ≤ range.2 := by
  fun_induction inRanges code ranges with
  | case1 => cases hcode
  | case2 first last ranges hlast =>
    exact ⟨(first, last), List.mem_cons_self, of_decide_eq_true hcode, hlast⟩
  | case3 first last ranges _ ih =>
    obtain ⟨range, hmem, hrange⟩ := ih hcode
    exact ⟨range, List.mem_cons_of_mem _ hmem, hrange⟩

theorem not_isWordCharacter_of_isWhiteSpace {c : Char} (hc : isWhiteSpace c) :
    isWordCharacter c = false := by
  have hall : (whiteSpace.all fun range ↦ (List.range' range.1 (range.2 + 1 - range.1)).all
      fun code ↦ !isWordCharacter (Char.ofNat code)) = true := by
    decide +kernel
  obtain ⟨range, hrange, hfirst, hlast⟩ := exists_mem_of_inRanges hc
  have hcode : c.toNat ∈ List.range' range.1 (range.2 + 1 - range.1) := by
    rw [List.mem_range'_1]
    omega
  have hword := List.all_eq_true.1 (List.all_eq_true.1 hall range hrange) c.toNat hcode
  rw [Char.ofNat_toNat] at hword
  simpa using hword

end Unicode

namespace NuShell

def operatorSet : CharSet :=
  anyOf "-+*/%=<>!&|^~".toList

/-- The characters of a line. -/
def lineSet : CharSet :=
  .compl (.single '\n')

/-- The characters that would have been part of a token of this kind, had they come next. -/
def continuation? : Kind → Option CharSet
  | .keyword | .keywordConstant | .keywordType | .name | .nameFunction => some wordSet
  | .numberInteger | .numberFloat => some digitSet
  | .whitespace => some spaceSet
  | .operator => some operatorSet
  | .commentSingle => some lineSet
  | _ => none

/-- The characters of which a token of this kind consists, where these make up a set. -/
def filling? : Kind → Option CharSet
  | .nameFunction => some wordSet
  | .whitespace => some spaceSet
  | .operator => some operatorSet
  | .commentSingle => some lineSet
  | _ => none

theorem not_wordSet_of_spaceSet {c : Char} (hc : spaceSet.contains c) :
    wordSet.contains c = false :=
  Unicode.not_isWordCharacter_of_isWhiteSpace hc

theorem not_spaceSet_of_wordSet {c : Char} (hc : wordSet.contains c) :
    spaceSet.contains c = false := by
  rw [← Bool.not_eq_true]
  intro hspace
  rw [not_wordSet_of_spaceSet hspace] at hc
  cases hc

section words

variable {words : List String} {before : Option Char} {rest : List Char} {m : Match}

/-- A rule for words takes one that stands alone. -/
theorem exists_standsAt_of_match? (hmatch : (wordsRegex words).match? before rest = some m)
    (hlength : m.length ≠ 0) :
    ∃ word ∈ words, WordList.StandsAt true before rest word ∧
      rest.take m.length = word.toList ∧ m.length = word.length := by
  have hexpression : wordsRegex words = WordList.expression words true := rfl
  rw [hexpression] at hmatch
  by_cases hwords : WordList.longestFirst words = []
  · exact absurd (WordList.length_eq_zero_of_no_words hwords hmatch) hlength
  · rw [WordList.match?_expression hwords, Option.map_eq_some_iff] at hmatch
    obtain ⟨word, hlongest, rfl⟩ := hmatch
    obtain ⟨hmem, hstands, -⟩ := WordList.longestAt?_eq_some hlongest
    refine ⟨word, hmem, hstands, ?_, rfl⟩
    rw [List.prefix_iff_eq_take.1 hstands.2.1, String.length_toList]

theorem ends_with_wordCharacter : ∀ word ∈ keywords ++ constants ++ types,
    Look.isWord word.toList.getLast? := by
  have hall : (keywords ++ constants ++ types).all
      (fun word ↦ word.back?.any Unicode.isWordCharacter) = true := by
    decide +kernel
  intro word hword
  have hword := List.all_eq_true.1 hall word hword
  rwa [String.back?_eq] at hword

/-- A word boundary after a word is the end of the word. -/
theorem not_wordSet_after_word (hwords : words ⊆ keywords ++ constants ++ types)
    (hmatch : (wordsRegex words).match? before rest = some m) (hlength : m.length ≠ 0) :
    ∀ c ∈ (rest.drop m.length).head?, wordSet.contains c = false := by
  intro c hc
  obtain ⟨word, hword, hstands, -, hm⟩ := exists_standsAt_of_match? hmatch hlength
  obtain ⟨-, hboundary⟩ := hstands.2.2 rfl
  have hlast := ends_with_wordCharacter word (hwords hword)
  rw [Look.holds, ← hm, Option.mem_def.1 hc, hlast] at hboundary
  have hnot : Look.isWord (some c) = false := by simpa using hboundary
  exact hnot

end words

theorem stops_commentRegex : commentRegex.Stops lineSet := by
  have hend : (Regex.look .lineEnd).Stops lineSet := by
    apply Regex.stops_look
    intro before c hholds
    have hnewline : c = '\n' := by simpa [Look.holds, Look.isLineEdge] using hholds
    simp [lineSet, CharSet.contains, hnewline]
  exact (hend.seq _).seq _

theorem stops_nameRegex : nameRegex.Stops wordSet :=
  (Regex.stops_star_chars wordSet).seq _

theorem stops_floatRegex : floatRegex.Stops digitSet :=
  ((Regex.stops_run digitSet).seq _).seq _

theorem stops_definitionRegex : definitionRegex.Stops wordSet :=
  ((((Regex.stops_run wordSet).group 3).seq _).seq _)

/-- No rule for single tokens stops where its token could have gone on. -/
theorem not_contains_of_match? {regex : Regex} {kind : Kind}
    (hrule : tokenRule regex kind ∈ readyRules) {before : Option Char} {text : List Char}
    {m : Match} (hmatch : regex.match? before text = some m) (hlength : m.length ≠ 0) :
    ∀ s ∈ continuation? kind, ∀ c ∈ (text.drop m.length).head?, s.contains c = false := by
  intro s hs
  have hsteady : regex.isSteady := steady_readyRules _ hrule
  have hstops {t : CharSet} (hregex : regex.Stops t) (ht : some t = continuation? kind) :
      ∀ c ∈ (text.drop m.length).head?, s.contains c = false := by
    obtain rfl : t = s := Option.some.inj (ht.trans hs)
    exact hregex.match? hsteady hmatch
  have hword {words : List String} (hregex : regex = wordsRegex words)
      (hwords : words ⊆ keywords ++ constants ++ types)
      (hkind : some wordSet = continuation? kind) :
      ∀ c ∈ (text.drop m.length).head?, s.contains c = false := by
    obtain rfl : wordSet = s := Option.some.inj (hkind.trans hs)
    exact not_wordSet_after_word hwords (hregex ▸ hmatch) hlength
  simp only [readyRules, tokenRule, definitionRule, List.mem_cons, List.not_mem_nil, or_false,
    Lexer.Rule.mk.injEq, Action.token.injEq, reduceCtorEq, and_true, and_false,
    false_or] at hrule
  -- comments, the three lists of words, names, operators, punctuation, the two kinds of strings,
  -- the two kinds of numbers, white space
  rcases hrule with ⟨rfl, rfl⟩ | ⟨hregex, rfl⟩ | ⟨hregex, rfl⟩ | ⟨hregex, rfl⟩ | ⟨rfl, rfl⟩ |
    ⟨rfl, rfl⟩ | ⟨rfl, rfl⟩ | ⟨rfl, rfl⟩ | ⟨rfl, rfl⟩ | ⟨rfl, rfl⟩ | ⟨rfl, rfl⟩ | ⟨rfl, rfl⟩
  · exact hstops stops_commentRegex rfl
  · exact hword hregex (by simp) rfl
  · exact hword hregex (by simp) rfl
  · exact hword hregex (by simp) rfl
  · exact hstops stops_nameRegex rfl
  · exact hstops (Regex.stops_run operatorSet) rfl
  · cases hs
  · cases hs
  · cases hs
  · exact hstops stops_floatRegex rfl
  · exact hstops (Regex.stops_run digitSet) rfl
  · exact hstops (Regex.stops_run spaceSet) rfl

theorem contains_of_match?_run {s : CharSet} {before : Option Char} {text : List Char} {m : Match}
    (hmatch : (Regex.run s).match? before text = some m) :
    ∀ c ∈ text.take m.length, s.contains c := by
  rw [Regex.match?_eq rfl, Regex.ways_run, Option.map_eq_some_iff] at hmatch
  obtain ⟨way, hhead, rfl⟩ := hmatch
  obtain ⟨count, hcount, rfl⟩ := List.mem_map.1 (List.mem_of_mem_head? hhead)
  rw [List.mem_reverse, List.mem_range] at hcount
  have hoffset : 0 + (count + 1) = count + 1 := Nat.zero_add _
  intro c hc
  change c ∈ text.take (0 + (count + 1)) at hc
  rw [hoffset] at hc
  exact CharSet.contains_of_mem_take hcount hc

/-- A comment is its sign and characters of the line behind it. -/
theorem contains_of_match?_comment {before : Option Char} {after : List Char} {m : Match}
    (hmatch : commentRegex.match? before ('#' :: after) = some m) :
    ∀ c ∈ ('#' :: after).take m.length, lineSet.contains c := by
  let start : Way := ⟨before, '#' :: after, 0, List.replicate (2 * commentRegex.lastGroup) none⟩
  have hsign : (CharSet.single '#').contains '#' := beq_self_eq_true '#'
  have hways : commentRegex.ways start = _ := Regex.ways_seq_chars rfl hsign _
  rw [Regex.match?_eq rfl, hways, Option.map_eq_some_iff] at hmatch
  obtain ⟨way, hhead, rfl⟩ := hmatch
  have hway := List.mem_of_mem_head? hhead
  rw [Regex.ways, Regex.ways_star_chars, List.mem_flatMap] at hway
  obtain ⟨line, hline, hway⟩ := hway
  obtain ⟨count, hcount, rfl⟩ := List.mem_map.1 hline
  rw [List.mem_reverse, List.mem_range, Nat.lt_succ_iff] at hcount
  have hoffset : way.offset = count + 1 := by
    rw [Regex.ways] at hway
    split at hway
    · rw [List.mem_singleton.1 hway]
      change 0 + 1 + count = count + 1
      omega
    · cases hway
  change ∀ c ∈ ('#' :: after).take way.offset, lineSet.contains c
  rw [hoffset, List.take_succ_cons, List.forall_mem_cons]
  exact ⟨rfl, fun c hc ↦ CharSet.contains_of_mem_take hcount hc⟩

/-- The rules for kinds of one filling are runs of it, but for the sign of a comment. -/
theorem regex_of_filling? {regex : Regex} {kind : Kind} (hrule : tokenRule regex kind ∈ readyRules)
    {s : CharSet} (hs : s ∈ filling? kind) :
    regex = .run s ∨ regex = commentRegex ∧ s = lineSet := by
  have hall : ∀ rule ∈ readyRules, ∀ kind, rule.action = .token kind → ∀ s ∈ filling? kind,
      rule.regex = .run s ∨ rule.regex = commentRegex ∧ s = lineSet := by
    simp [readyRules, tokenRule, definitionRule, filling?, operatorRegex, operatorSet]
  exact hall _ hrule kind rfl s hs

theorem regex_of_commentSingle {regex : Regex}
    (hrule : tokenRule regex .commentSingle ∈ readyRules) : regex = commentRegex := by
  have hall : ∀ rule ∈ readyRules, rule.action = .token .commentSingle →
      rule.regex = commentRegex := by
    simp [readyRules, tokenRule, definitionRule]
  exact hall _ hrule rfl

theorem head?_of_match?_comment {before : Option Char} {text : List Char} {m : Match}
    (hmatch : commentRegex.match? before text = some m) (hlength : m.length ≠ 0) :
    text.head? = some '#' := by
  obtain ⟨c, hc, hbegins⟩ := Regex.begins_of_match? rfl hmatch hlength
  obtain rfl : c = '#' := beq_iff_eq.1 (Regex.begins_of_begins_seq rfl hbegins)
  exact hc

theorem contains_of_match? {regex : Regex} {kind : Kind}
    (hrule : tokenRule regex kind ∈ readyRules) {before : Option Char} {text : List Char}
    {m : Match} (hmatch : regex.match? before text = some m) (hlength : m.length ≠ 0) :
    ∀ s ∈ filling? kind, ∀ c ∈ text.take m.length, s.contains c := by
  intro s hs
  rcases regex_of_filling? hrule hs with rfl | ⟨rfl, rfl⟩
  · exact contains_of_match?_run hmatch
  · obtain ⟨after, rfl⟩ := List.head?_eq_some_iff.1 (head?_of_match?_comment hmatch hlength)
    exact contains_of_match?_comment hmatch

/-- A token of this kind and with this text is whole, if `after` comes next. -/
structure Whole (kind : Kind) (value after : List Char) : Prop where
  not_continued : ∀ s ∈ continuation? kind, ∀ c ∈ after.head?, s.contains c = false
  filled : ∀ s ∈ filling? kind, ∀ c ∈ value, s.contains c
  sign : kind = .commentSingle → value.head? = some '#'

/-- What one step takes off the text that follows `done`, and the tokens that it makes. -/
inductive Takes (done : List Char) : List Char → List Char → List Token → Prop
  | whole {regex : Regex} {kind : Kind} {rest : List Char} {m : Match}
      (happlies : Applies readyRules done rest (tokenRule regex kind) m) :
      Takes done rest (rest.drop m.length) [Token.of kind (byteLength done) (rest.take m.length)]
  | definition {spaces letters : List Char}
      (hspaces : spaces ≠ [] ∧ ∀ c ∈ spaces, spaceSet.contains c)
      (hletters : letters ≠ [] ∧ ∀ c ∈ letters, wordSet.contains c) {after : List Char}
      (hafter : ∀ c ∈ after.head?, wordSet.contains c = false) :
      Takes done ("def".toList ++ spaces ++ letters ++ after) after
        [Token.of .keyword (byteLength done) "def".toList,
          Token.of .whitespace (byteLength done + 3) spaces,
          Token.of .nameFunction (byteLength done + 3 + byteLength spaces) letters]
  | error {c : Char} {after : List Char} (hnone : Unmatched readyRules done (c :: after)) :
      Takes done (c :: after) after [Token.of .error (byteLength done) [c]]

theorem drop_definition (spaces name rest : List Char) :
    ("def".toList ++ spaces ++ name ++ rest).drop (definitionMatch spaces name).length = rest := by
  have hall := List.take_append_drop (definitionMatch spaces name).length
    ("def".toList ++ spaces ++ name ++ rest)
  rw [take_definition] at hall
  exact List.append_cancel_left hall

theorem takes_of_consumes {done rest : List Char} {length : Nat} {stretch : Stretch}
    (hstep : Consumes ready root done rest length stretch) :
    Takes done rest (rest.drop length) stretch.tokens := by
  cases hstep with
  | @matched rule m happlies =>
    rw [rulesOf_root] at happlies
    rcases eq_of_mem_readyRules happlies.mem with rfl | ⟨regex, kind, rfl⟩
    · have hmatch : definitionRegex.match? done.getLast? rest = some m := happlies.consumes.1
      have hafter := stops_definitionRegex.match? (by decide) hmatch
      obtain ⟨spaces, letters, after, rfl, hspaces, hletters, rfl⟩ := definition_match hmatch
      rw [drop_definition] at hafter
      rw [take_definition, drop_definition, cut_definition hspaces.1 hletters.1]
      exact .definition hspaces hletters hafter
    · rw [cut_token happlies.fits.length_le]
      exact .whole happlies
  | newline hnone hhead =>
    obtain ⟨after, rfl⟩ := List.head?_eq_some_iff.1 hhead
    exact absurd hnone (not_unmatched_of_leads (by decide) done after)
  | @other c hnone hhead hc =>
    obtain ⟨after, rfl⟩ := List.head?_eq_some_iff.1 hhead
    exact .error hnone

/-- The tokens hold a text that begins at `position` piece by piece, and all of them are whole. -/
inductive Complete : Nat → List Char → List Token → Prop
  | nil (position : Nat) : Complete position [] []
  | cons {kind : Kind} {position : Nat} {value rest : List Char} {tokens : List Token}
      (hvalue : value ≠ []) (hwhole : Whole kind value rest)
      (hrest : Complete (position + byteLength value) rest tokens) :
      Complete position (value ++ rest) (Token.of kind position value :: tokens)

section definition

variable {spaces letters after : List Char}

theorem whole_keyword (hspaces : spaces ≠ [] ∧ ∀ c ∈ spaces, spaceSet.contains c)
    (value : List Char) : Whole .keyword value (spaces ++ after) where
  not_continued := by
    rintro s ⟨⟩ c hc
    obtain ⟨d, ds, rfl⟩ := List.exists_cons_of_ne_nil hspaces.1
    obtain rfl := Option.some.inj hc
    exact not_wordSet_of_spaceSet (hspaces.2 d List.mem_cons_self)
  filled := by simp [filling?]
  sign := by simp

theorem whole_space (hspaces : spaces ≠ [] ∧ ∀ c ∈ spaces, spaceSet.contains c)
    (hletters : letters ≠ [] ∧ ∀ c ∈ letters, wordSet.contains c) :
    Whole .whitespace spaces (letters ++ after) where
  not_continued := by
    rintro s ⟨⟩ c hc
    obtain ⟨d, ds, rfl⟩ := List.exists_cons_of_ne_nil hletters.1
    obtain rfl := Option.some.inj hc
    exact not_spaceSet_of_wordSet (hletters.2 d List.mem_cons_self)
  filled := by
    rintro s ⟨⟩
    exact hspaces.2
  sign := by simp

theorem whole_name (hletters : letters ≠ [] ∧ ∀ c ∈ letters, wordSet.contains c)
    (hafter : ∀ c ∈ after.head?, wordSet.contains c = false) :
    Whole .nameFunction letters after where
  not_continued := by
    rintro s ⟨⟩
    exact hafter
  filled := by
    rintro s ⟨⟩
    exact hletters.2
  sign := by simp

end definition

theorem whole_of_applies {done rest : List Char} {regex : Regex} {kind : Kind} {m : Match}
    (happlies : Applies readyRules done rest (tokenRule regex kind) m) :
    Whole kind (rest.take m.length) (rest.drop m.length) where
  not_continued := not_contains_of_match? happlies.mem happlies.consumes.1 happlies.consumes.2
  filled := contains_of_match? happlies.mem happlies.consumes.1 happlies.consumes.2
  sign := by
    rintro rfl
    have hregex := regex_of_commentSingle happlies.mem
    have hmatch : regex.match? done.getLast? rest = some m := happlies.consumes.1
    rw [hregex] at hmatch
    rw [List.head?_take, if_neg happlies.consumes.2]
    exact head?_of_match?_comment hmatch happlies.consumes.2

theorem Takes.complete {done rest after : List Char} {tokens others : List Token} {position : Nat}
    (htakes : Takes done rest after tokens)
    (hposition : position + byteLength after = byteLength done + byteLength rest)
    (hothers : Complete position after others) :
    Complete (byteLength done) rest (tokens ++ others) := by
  cases htakes with
  | @whole regex kind rest m happlies =>
    have hsplit := congrArg byteLength (List.take_append_drop m.length rest)
    rw [Text.byteLength_append] at hsplit
    obtain rfl : position = byteLength done + byteLength (rest.take m.length) := by omega
    have hvalue : rest.take m.length ≠ [] := by
      have hpos := happlies.length_pos
      have hlength := happlies.fits.length_le
      rw [← List.length_pos_iff, List.length_take]
      omega
    have hcomplete := Complete.cons hvalue (whole_of_applies happlies) hothers
    rwa [List.take_append_drop] at hcomplete
  | @definition spaces letters hspaces hletters after hafter =>
    have hdef : byteLength "def".toList = 3 := rfl
    simp only [Text.byteLength_append, hdef] at hposition
    obtain rfl : position = byteLength done + 3 + byteLength spaces + byteLength letters := by omega
    rw [List.append_assoc, List.append_assoc]
    refine .cons (by decide) (whole_keyword hspaces _) ?_
    refine .cons hspaces.1 (whole_space hspaces hletters) ?_
    exact .cons hletters.1 (whole_name hletters hafter) hothers
  | @error c after hnone =>
    rw [Text.byteLength] at hposition
    obtain rfl : position = byteLength done + byteLength [c] := by
      rw [Text.byteLength, Text.byteLength]
      omega
    have hwhole : Whole .error [c] after := ⟨by simp [continuation?], by simp [filling?], by simp⟩
    exact .cons (List.cons_ne_nil c []) hwhole hothers

theorem complete_of_scan {stack : Stack} {done rest : List Char} {scan : List Stretch}
    (hscan : Scan ready stack done rest scan) (hstack : stack = root) :
    Complete (byteLength done) rest (scan.flatMap (·.tokens)) := by
  induction hscan with
  | finish stack done => exact .nil _
  | @step stack done rest length stretch stretches hstep hscan ih =>
    subst hstack
    apply (takes_of_consumes hstep).complete _ (ih (consumes_makes hstep).1)
    rw [← Text.byteLength_append, ← Text.byteLength_append, List.append_assoc,
      List.take_append_drop]

theorem complete_tokenize (text : String) : Complete 0 text.toList (ready.tokenize text) := by
  obtain ⟨scan, hscan⟩ := (Cursor.At.start ready text).exists_scan
  rw [hscan.tokenize_eq]
  exact complete_of_scan hscan rfl

/-- No character at the start of the second token could have belonged to the first one. -/
structure Parted (token next : Token) : Prop where
  word : token.kind ∈ [.keyword, .keywordConstant, .keywordType, .name, .nameFunction] →
    ∀ c ∈ next.value.toList.head?, Unicode.isWordCharacter c = false
  digit : token.kind ∈ [.numberInteger, .numberFloat] →
    ∀ c ∈ next.value.toList.head?, Unicode.isDecimalDigit c = false
  whitespace : ¬ (token.kind = .whitespace ∧ next.kind = .whitespace)
  operator : ¬ (token.kind = .operator ∧ next.kind = .operator)

/-- A kind of tokens that are runs of a set does not come twice in a row. -/
theorem not_both_of_whole {kind : Kind} {s : CharSet} (hcontinued : s ∈ continuation? kind)
    (hfilling : s ∈ filling? kind) {value next after rest : List Char} (hnext : next ≠ [])
    (hwhole : Whole kind value (next ++ rest)) : ¬ Whole kind next after := by
  intro hboth
  obtain ⟨c, cs, rfl⟩ := List.exists_cons_of_ne_nil hnext
  have hin := hboth.filled s hfilling c List.mem_cons_self
  rw [hwhole.not_continued s hcontinued c rfl] at hin
  cases hin

theorem parted_of_whole {kind other : Kind} {position place : Nat} {value next after : List Char}
    (hnext : next ≠ []) (hwhole : Whole kind value (next ++ after))
    (hother : Whole other next after) :
    Parted (Token.of kind position value) (Token.of other place next) := by
  have hhead {s : CharSet} (hs : s ∈ continuation? kind) :
      ∀ c ∈ (Token.of other place next).value.toList.head?, s.contains c = false := by
    intro c hc
    obtain ⟨d, ds, rfl⟩ := List.exists_cons_of_ne_nil hnext
    have hfirst : (Token.of other place (d :: ds)).value.toList = d :: ds := String.toList_ofList
    rw [hfirst] at hc
    exact hwhole.not_continued s hs c hc
  refine ⟨?_, ?_, ?_, ?_⟩
  · intro hkind
    have hs : wordSet ∈ continuation? kind := by
      change kind ∈ _ at hkind
      simp only [List.mem_cons, List.not_mem_nil, or_false] at hkind
      rcases hkind with rfl | rfl | rfl | rfl | rfl <;> rfl
    exact hhead hs
  · intro hkind
    have hs : digitSet ∈ continuation? kind := by
      change kind ∈ _ at hkind
      simp only [List.mem_cons, List.not_mem_nil, or_false] at hkind
      rcases hkind with rfl | rfl <;> rfl
    exact hhead hs
  · rintro ⟨hkind, hsame⟩
    obtain ⟨rfl, rfl⟩ : kind = .whitespace ∧ other = .whitespace := ⟨hkind, hsame⟩
    exact not_both_of_whole rfl rfl hnext hwhole hother
  · rintro ⟨hkind, hsame⟩
    obtain ⟨rfl, rfl⟩ : kind = .operator ∧ other = .operator := ⟨hkind, hsame⟩
    exact not_both_of_whole rfl rfl hnext hwhole hother

theorem Complete.isChain {position : Nat} {text : List Char} {tokens : List Token}
    (hcomplete : Complete position text tokens) : tokens.IsChain Parted := by
  induction hcomplete with
  | nil => exact .nil
  | @cons kind position value rest tokens hvalue hwhole hrest ih =>
    apply ih.cons
    intro next hnext
    cases hrest with
    | nil => cases hnext
    | cons hvalue hother hrest =>
      obtain rfl := Option.some.inj hnext
      exact parted_of_whole hvalue hwhole hother

theorem Complete.exists_whole {position : Nat} {text : List Char} {tokens : List Token}
    (hcomplete : Complete position text tokens) {token : Token} (htoken : token ∈ tokens) :
    ∃ left value right, text = left ++ value ++ right ∧
      token = Token.of token.kind (position + byteLength left) value ∧ value ≠ [] ∧
      Whole token.kind value right := by
  induction hcomplete with
  | nil => cases htoken
  | @cons kind position value rest tokens hvalue hwhole hrest ih =>
    rcases List.mem_cons.1 htoken with rfl | hlater
    · exact ⟨[], value, rest, rfl, rfl, hvalue, hwhole⟩
    · obtain ⟨left, piece, right, rfl, hof, hpiece⟩ := ih hlater
      refine ⟨value ++ left, piece, right, by simp only [List.append_assoc], ?_, hpiece⟩
      rw [Text.byteLength_append, ← Nat.add_assoc]
      exact hof

/-- No token ends where more of its text comes: a word before a character of words, a number before
a digit, white space before white space, an operator before another one. A comment goes on to the
end of its line. -/
theorem tokens_maximal : ∃ lexer, NuShell.lexer = .ok lexer ∧ ∀ text : String,
    (lexer.tokenize text).IsChain Parted ∧
    ∀ token ∈ lexer.tokenize text, token.kind = .commentSingle →
      ∃ left line right, text.toList = left ++ '#' :: line ++ right ∧
        token = Token.of .commentSingle (byteLength left) ('#' :: line) ∧
        '\n' ∉ line ∧ ∀ c ∈ right.head?, c = '\n' := by
  refine ⟨ready, lexer_eq, ?_⟩
  intro text
  have hcomplete := complete_tokenize text
  refine ⟨hcomplete.isChain, ?_⟩
  intro token htoken hkind
  obtain ⟨left, value, right, hsplit, hof, -, hwhole⟩ := hcomplete.exists_whole htoken
  rw [hkind] at hof hwhole
  rw [Nat.zero_add] at hof
  obtain ⟨line, rfl⟩ := List.head?_eq_some_iff.1 (hwhole.sign rfl)
  refine ⟨left, line, right, hsplit, hof, ?_, ?_⟩
  · intro hnewline
    have hline := hwhole.filled lineSet rfl '\n' (List.mem_cons_of_mem _ hnewline)
    cases hline
  · intro c hc
    have hline := hwhole.not_continued lineSet rfl c hc
    simpa [lineSet, CharSet.contains] using hline

/-- Two operators, and a comment that the end of its line ends. -/
theorem tokens_maximal_comment : ∃ lexer, NuShell.lexer = .ok lexer ∧
    lexer.tokenize "<=#.\n" = [⟨.operator, "<=", ⟨0, 2⟩⟩, ⟨.commentSingle, "#.", ⟨2, 4⟩⟩,
      ⟨.whitespace, "\n", ⟨4, 5⟩⟩] ∧
    Parted ⟨.operator, "<=", ⟨0, 2⟩⟩ ⟨.commentSingle, "#.", ⟨2, 4⟩⟩ ∧
    ∃ left line right, "<=#.\n".toList = left ++ '#' :: line ++ right ∧
      (⟨.commentSingle, "#.", ⟨2, 4⟩⟩ : Token) =
        Token.of .commentSingle (byteLength left) ('#' :: line) ∧
      '\n' ∉ line ∧ ∀ c ∈ right.head?, c = '\n' := by
  obtain ⟨lexer, hlexer, hmaximal⟩ := tokens_maximal
  obtain rfl : ready = lexer := Except.ok.inj (lexer_eq.symm.trans hlexer)
  have htokens : ready.tokenize "<=#.\n" = [⟨.operator, "<=", ⟨0, 2⟩⟩,
      ⟨.commentSingle, "#.", ⟨2, 4⟩⟩, ⟨.whitespace, "\n", ⟨4, 5⟩⟩] := by decide +kernel
  obtain ⟨hchain, hcomment⟩ := hmaximal "<=#.\n"
  rw [htokens] at hchain
  have hmem : ⟨.commentSingle, "#.", ⟨2, 4⟩⟩ ∈ ready.tokenize "<=#.\n" := by simp [htokens]
  exact ⟨ready, lexer_eq, htokens, (List.isChain_cons_cons.1 hchain).1, hcomment _ hmem rfl⟩

end NuShell

end LexTable
