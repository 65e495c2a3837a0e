import LexTable.Proofs.NuShell.Endings
import LexTable.Proofs.NuShell.Fallback
import LexTable.Proofs.NuShell.Restart

/-!
# Names of functions in NuShell

The keyword `def` alone, white space and a character of words make a definition, and nothing else
does. Two rules may read such a keyword, but the one for definitions comes first and misses none of
them: where it has no match, what follows the white space does not begin with a character of words.
-/

namespace LexTable

open Text (byteLength)

namespace NuShell

/-- The way past a definition is one of the ways through its expression. -/
theorem mem_ways_definition {way : Way} {text : List Char}
    (hrest : way.rest = "def".toList ++ text)
    (hstart : Look.wordBoundary.holds way.before way.rest.head?)
    (hend : Look.wordBoundary.holds (some 'f') text.head?) {spaces letters : Nat}
    (hspaces : spaces < (text.takeWhile spaceSet.contains).length)
    (hletters : letters < ((text.drop (spaces + 1)).takeWhile wordSet.contains).length) :
    definitionWay way (spaces + 1) (letters + 1) ∈ definitionRegex.ways way := by
  have hskip : (way.rest.take 3).getLast?.or way.before = some 'f' := by
    rw [hrest]
    rfl
  have hdrop : way.rest.drop 3 = text := by
    rw [hrest]
    rfl
  have hkeyword : ((way.mark 0).skip 3).mark 1 ∈
      (Regex.group 1 (Regex.lone "def".toList)).ways way := by
    rw [Regex.ways, Regex.ways_lone, if_pos]
    · exact List.mem_singleton_self _
    · refine ⟨hstart, ⟨text, hrest.symm⟩, ?_⟩
      change Look.wordBoundary.holds ((way.rest.take 3).getLast?.or way.before)
        (way.rest.drop 3).head?
      rwa [hskip, hdrop]
  rw [definitionRegex, Regex.ways, List.mem_flatMap]
  refine ⟨_, hkeyword, ?_⟩
  rw [Regex.ways, List.mem_flatMap]
  refine ⟨_, Regex.mem_ways_group_run.2 ⟨spaces, ?_, rfl⟩,
    Regex.mem_ways_group_run.2 ⟨letters, ?_, rfl⟩⟩
  · change spaces < ((way.rest.drop 3).takeWhile _).length
    rwa [hdrop]
  · change letters < (((way.rest.drop 3).drop (spaces + 1)).takeWhile _).length
    rwa [hdrop]

/-- Where `def` stands alone before white space and a character of words, there is a definition. -/
theorem consumes_definition {done spaces : List Char} {c : Char} {after : List Char}
    (hstands : WordList.StandsAt true done.getLast? ("def".toList ++ spaces ++ c :: after) "def")
    (hspaces : spaces ≠ [] ∧ ∀ c ∈ spaces, spaceSet.contains c) (hc : wordSet.contains c) :
    ∃ m, definitionRule.Consumes done ("def".toList ++ spaces ++ c :: after) m := by
  obtain ⟨hstart, hboundary⟩ := hstands.2.2 rfl
  have hend : Look.wordBoundary.holds (some 'f') (spaces ++ c :: after).head? := by
    rw [List.append_assoc] at hboundary
    exact hboundary
  have hpos := List.length_pos_iff.2 hspaces.1
  have htake : (spaces ++ c :: after).takeWhile spaceSet.contains = spaces := by
    rw [List.takeWhile_append_of_pos hspaces.2,
      List.takeWhile_cons_of_neg (by simp [not_spaceSet_of_wordSet hc]), List.append_nil]
  let start : Way := ⟨done.getLast?, "def".toList ++ spaces ++ c :: after, 0,
    List.replicate (2 * definitionRegex.lastGroup) none⟩
  have hway : definitionWay start (spaces.length - 1 + 1) (0 + 1) ∈ definitionRegex.ways start := by
    refine mem_ways_definition (List.append_assoc ..) hstart hend ?_ ?_
    · rw [htake]
      omega
    · rw [Nat.sub_add_cancel hpos, List.drop_left, List.takeWhile_cons_of_pos hc]
      exact Nat.succ_pos _
  exact Regex.exists_match?_of_mem_ways (by decide) rfl hway

/-- Where a later rule for single tokens applies, there is no definition. -/
theorem not_consumes_definition {done rest : List Char} {regex : Regex} {kind : Kind} {m : Match}
    (happlies : Applies readyRules done rest (tokenRule regex kind) m)
    (hkind : kind ≠ .commentSingle) (other : Match) :
    ¬ definitionRule.Consumes done rest other := by
  obtain ⟨earlier, later, hsplit, hearlier, -⟩ := happlies
  rcases earlier with _ | ⟨first, _ | ⟨second, earlier⟩⟩
  · have hrule : tokenRule commentRegex .commentSingle = tokenRule regex kind :=
      (List.cons.inj hsplit).1
    exact absurd (Action.token.inj (Lexer.Rule.mk.inj hrule).2.1).symm hkind
  · have hrule : definitionRule = tokenRule regex kind :=
      (List.cons.inj (List.cons.inj hsplit).2).1
    cases (Lexer.Rule.mk.inj hrule).2.1
  · obtain rfl : definitionRule = second := (List.cons.inj (List.cons.inj hsplit).2).1
    exact hearlier definitionRule (by simp) other

theorem regex_of_keyword {regex : Regex} (hrule : tokenRule regex .keyword ∈ readyRules) :
    regex = wordsRegex keywords := by
  have hall : ∀ rule ∈ readyRules, rule.action = .token .keyword →
      rule.regex = wordsRegex keywords := by
    simp [readyRules, tokenRule, definitionRule]
  exact hall _ hrule rfl

/-- A token of a text, with the tokens of earlier and of later steps around those that its own step
made with it. -/
inductive Made (done rest : List Char) : List Token → Token → List Token → Prop
  | step {left right after : List Char} (hrest : rest = left ++ right) (before : List Token)
      {first last others : List Token} {token : Token}
      (htakes : Takes (done ++ left) right after (first ++ token :: last)) {position : Nat}
      (hcomplete : Complete position after others) :
      Made done rest (before ++ first) token (last ++ others)

theorem made_of_scan {stack : Stack} {done rest : List Char} {scan : List Stretch}
    (hscan : Scan ready stack done rest scan) (hstack : stack = root) {earlier later : List Token}
    {token : Token} (htokens : scan.flatMap (·.tokens) = earlier ++ token :: later) :
    Made done rest earlier token later := by
  induction hscan generalizing earlier with
  | finish stack done => simp at htokens
  | @step stack done rest length stretch stretches hstep hscan ih =>
    subst hstack
    have htakes := takes_of_consumes hstep
    have hroot := (consumes_makes hstep).1
    rw [List.flatMap_cons] at htokens
    rcases cut_append_cons htokens with ⟨more, rfl, hmore⟩ | ⟨last, hlast⟩
    · -- the token is of a later step
      obtain ⟨hrest, before, hlater, hcomplete⟩ := ih hroot hmore
      rw [List.append_assoc] at hlater
      rw [← List.append_assoc]
      refine .step ?_ _ hlater hcomplete
      rw [List.append_assoc, ← hrest, List.take_append_drop]
    · -- the token is of this step
      obtain rfl : last ++ stretches.flatMap (·.tokens) = later := by
        rw [hlast, List.append_assoc, List.append_cancel_left_eq, List.cons_append,
          List.cons.injEq] at htokens
        exact htokens.2
      rw [hlast, ← List.append_nil done] at htakes
      have hrest : rest = [] ++ rest := rfl
      exact .step hrest [] htakes (complete_of_scan hscan hroot)

theorem made_of_tokenize {text : String} {earlier later : List Token} {token : Token}
    (htokens : ready.tokenize text = earlier ++ token :: later) :
    Made [] text.toList earlier token later := by
  obtain ⟨scan, hscan⟩ := (Cursor.At.start ready text).exists_scan
  rw [hscan.tokenize_eq] at htokens
  exact made_of_scan hscan rfl htokens

/-- Where an element of a list of three stands. -/
theorem eq_of_triple {α : Type} {a b c x : α} {first last : List α}
    (hall : [a, b, c] = first ++ x :: last) :
    first = [] ∧ x = a ∧ last = [b, c] ∨ first = [a] ∧ x = b ∧ last = [c] ∨
      first = [a, b] ∧ x = c ∧ last = [] := by
  rcases first with _ | ⟨first, _ | ⟨second, _ | ⟨third, more⟩⟩⟩ <;> simp at hall
  · simp [hall]
  · simp [hall]
  · simp [hall]

theorem eq_of_single {α : Type} {a x : α} {first last : List α} (hall : [a] = first ++ x :: last) :
    first = [] ∧ x = a ∧ last = [] := by
  rcases first with _ | ⟨first, more⟩ <;> simp at hall
  simp [hall]

/-- The name of a function stands behind the other two tokens of its step. -/
theorem Takes.of_nameFunction {done rest after : List Char} {tokens first last : List Token}
    {token : Token} (htakes : Takes done rest after tokens)
    (htokens : tokens = first ++ token :: last) (hkind : token.kind = .nameFunction) :
    ∃ keyword space, first = [keyword, space] ∧ keyword.kind = .keyword ∧
      keyword.value = "def" ∧ space.kind = .whitespace := by
  cases htakes with
  | whole happlies =>
    obtain ⟨-, rfl, -⟩ := eq_of_single htokens
    exact absurd hkind (kind_of_mem_readyRules happlies.mem).2.2
  | definition =>
    rcases eq_of_triple htokens with ⟨-, rfl, -⟩ | ⟨-, rfl, -⟩ | ⟨rfl, -, -⟩
    · cases hkind
    · cases hkind
    · exact ⟨_, _, rfl, rfl, rfl, rfl⟩
  | error =>
    obtain ⟨-, rfl, -⟩ := eq_of_single htokens
    cases hkind

/-- A keyword `def` belongs to a definition, or the rule for keywords read it alone. -/
theorem Takes.of_def {done rest after : List Char} {tokens first last : List Token}
    {token : Token} (htakes : Takes done rest after tokens)
    (htokens : tokens = first ++ token :: last) (hkind : token.kind = .keyword)
    (hvalue : token.value = "def") :
    (∃ space name, last = [space, name] ∧ name.kind = .nameFunction) ∨
      last = [] ∧ rest = "def".toList ++ after ∧
        WordList.StandsAt true done.getLast? rest "def" ∧
        ∀ m, ¬ definitionRule.Consumes done rest m := by
  cases htakes with
  | @whole regex kind rest m happlies =>
    obtain ⟨-, rfl, rfl⟩ := eq_of_single htokens
    obtain rfl : kind = .keyword := hkind
    have htake : rest.take m.length = "def".toList := by
      rw [← String.toList_ofList (l := rest.take m.length)]
      exact congrArg String.toList hvalue
    have hregex : regex = wordsRegex keywords := regex_of_keyword happlies.mem
    have hmatch : regex.match? done.getLast? rest = some m := happlies.consumes.1
    rw [hregex] at hmatch
    obtain ⟨word, -, hstands, hword, -⟩ := exists_standsAt_of_match? hmatch happlies.consumes.2
    obtain rfl : word = "def" := String.toList_injective (hword.symm.trans htake)
    refine .inr ⟨rfl, ?_, hstands, not_consumes_definition happlies (by decide)⟩
    rw [← htake, List.take_append_drop]
  | definition =>
    rcases eq_of_triple htokens with ⟨-, -, rfl⟩ | ⟨-, rfl, -⟩ | ⟨-, rfl, -⟩
    · exact .inl ⟨_, _, rfl, rfl⟩
    · cases hkind
    · cases hkind
  | error =>
    obtain ⟨-, rfl, -⟩ := eq_of_single htokens
    cases hkind

/-- The text that begins with the first of some whole tokens. -/
theorem Complete.of_cons {position : Nat} {text : List Char} {token : Token} {tokens : List Token}
    (hcomplete : Complete position text (token :: tokens)) :
    ∃ after, text = token.value.toList ++ after ∧ token.value.toList ≠ [] ∧
      Whole token.kind token.value.toList after ∧ ∃ place, Complete place after tokens := by
  cases hcomplete with
  | @cons kind position value rest tokens hvalue hwhole hrest =>
    have hlist : (Token.of kind position value).value.toList = value := String.toList_ofList
    rw [hlist]
    exact ⟨rest, rfl, hvalue, hwhole, _, hrest⟩

/-- Before the name of a function come the keyword and white space. -/
theorem exists_keyword_of_nameFunction {text : String} {earlier later : List Token} {token : Token}
    (htokens : ready.tokenize text = earlier ++ token :: later)
    (hkind : token.kind = .nameFunction) :
    ∃ before keyword space, earlier = before ++ [keyword, space] ∧ keyword.kind = .keyword ∧
      keyword.value = "def" ∧ space.kind = .whitespace := by
  cases made_of_tokenize htokens with
  | step hrest before htakes hcomplete =>
    obtain ⟨keyword, space, rfl, hdefinition⟩ := htakes.of_nameFunction rfl hkind
    exact ⟨before, keyword, space, rfl, hdefinition⟩

/-- White space and a character of words behind the keyword are a name in the same step: the rule
for keywords does not get to read a `def` before them. -/
theorem nameFunction_of_keyword {text : String} {earlier later : List Token}
    {keyword space token : Token}
    (htokens : ready.tokenize text = earlier ++ keyword :: space :: token :: later)
    (hkind : keyword.kind = .keyword) (hvalue : keyword.value = "def")
    (hspace : space.kind = .whitespace)
    (hword : ∃ c ∈ token.value.toList.head?, wordSet.contains c) : token.kind = .nameFunction := by
  generalize hafter : space :: token :: later = tokens at htokens
  cases made_of_tokenize htokens with
  | step hrest before htakes hcomplete =>
    rcases htakes.of_def rfl hkind hvalue with ⟨other, name, rfl, hname⟩ | ⟨rfl, hdef, hstands, hno⟩
    · obtain rfl : token = name := (List.cons.inj (List.cons.inj hafter).2).1
      exact hname
    · -- the rule for keywords read the keyword, but there is a definition
      rw [List.nil_append] at hafter
      subst hafter
      obtain ⟨after, rfl, hne, hspaces, position, hcomplete⟩ := hcomplete.of_cons
      obtain ⟨rest, rfl, -⟩ := hcomplete.of_cons
      obtain ⟨c, hc, hcontains⟩ := hword
      obtain ⟨letters, hletters⟩ := List.head?_eq_some_iff.1 hc
      rw [hspace] at hspaces
      rw [hletters, List.cons_append, ← List.append_assoc] at hdef
      rw [hdef] at hstands hno
      obtain ⟨m, hconsumes⟩ :=
        consumes_definition hstands ⟨hne, hspaces.filled spaceSet rfl⟩ hcontains
      exact absurd hconsumes (hno m)

/-- The name of a function is all the characters of words from where it begins. -/
theorem value_of_nameFunction {text : String} {token : Token} (htoken : token ∈ ready.tokenize text)
    (hkind : token.kind = .nameFunction) :
    (∃ c ∈ token.value.toList.head?, wordSet.contains c) ∧
      ∃ left right, text.toList = left ++ right ∧
        token = Token.of .nameFunction (byteLength left) (right.takeWhile wordSet.contains) := by
  obtain ⟨left, value, right, hsplit, hof, hne, hwhole⟩ :=
    (complete_tokenize text).exists_whole htoken
  rw [hkind, Nat.zero_add] at hof
  rw [hkind] at hwhole
  have hletters := hwhole.filled wordSet rfl
  refine ⟨?_, left, value ++ right, by rw [hsplit, List.append_assoc], ?_⟩
  · obtain ⟨c, cs, rfl⟩ := List.exists_cons_of_ne_nil hne
    have hvalue : token.value.toList = c :: cs := by
      rw [hof]
      exact String.toList_ofList
    rw [hvalue]
    exact ⟨c, rfl, hletters c List.mem_cons_self⟩
  · have hright : right.takeWhile wordSet.contains = [] := by
      rcases right with _ | ⟨c, cs⟩
      · rfl
      · exact List.takeWhile_cons_of_neg (by simp [hwhole.not_continued wordSet rfl c rfl])
    rw [List.takeWhile_append_of_pos hletters, hright, List.append_nil]
    exact hof

/-- A token is the name of a function when the keyword `def` and white space come before it and it
begins with a character of words. It is then all the characters of words that stand there. -/
theorem function_named_iff : ∃ lexer, NuShell.lexer = .ok lexer ∧ ∀ (text : String) (index : Nat)
    (token : Token), (lexer.tokenize text)[index]? = some token →
      (token.kind = .nameFunction ↔ ∃ (place : Nat) (keyword space : Token), index = place + 2 ∧
        (lexer.tokenize text)[place]? = some keyword ∧
        (lexer.tokenize text)[place + 1]? = some space ∧
        keyword.kind = .keyword ∧ keyword.value = "def" ∧ space.kind = .whitespace ∧
        ∃ c ∈ token.value.toList.head?, Unicode.isWordCharacter c) ∧
      (token.kind = .nameFunction → ∃ left right, text.toList = left ++ right ∧
        token = Token.of .nameFunction (byteLength left)
          (right.takeWhile Unicode.isWordCharacter)) := by
  refine ⟨ready, lexer_eq, ?_⟩
  intro text index token htoken
  have hvalue := value_of_nameFunction (List.mem_of_getElem? htoken)
  refine ⟨⟨?_, ?_⟩, fun hkind ↦ (hvalue hkind).2⟩
  · intro hkind
    have hdrop : (ready.tokenize text).drop index =
        token :: (ready.tokenize text).drop (index + 1) := by
      rw [List.drop_eq_getElem?_toList_append, htoken]
      rfl
    have htokens := (List.take_append_drop index (ready.tokenize text)).symm
    rw [hdrop] at htokens
    obtain ⟨before, keyword, space, hearlier, hkeyword, hdef, hspace⟩ :=
      exists_keyword_of_nameFunction htokens hkind
    have hlength : index = before.length + 2 := by
      have hindex := (List.getElem?_eq_some_iff.1 htoken).1
      have htake := congrArg List.length hearlier
      rw [List.length_take_of_le (Nat.le_of_lt hindex), List.length_append] at htake
      exact htake
    refine ⟨before.length, keyword, space, hlength, ?_, ?_, hkeyword, hdef, hspace,
      (hvalue hkind).1⟩
    · rw [htokens, hearlier]
      simp
    · rw [htokens, hearlier]
      simp
  · rintro ⟨place, keyword, space, rfl, hkeyword, hspace, hkind, hdef, hwhite, hword⟩
    have htokens := (List.take_append_drop place (ready.tokenize text)).symm
    rw [List.drop_eq_getElem?_toList_append, hkeyword, List.drop_eq_getElem?_toList_append, hspace,
      List.drop_eq_getElem?_toList_append, htoken] at htokens
    exact nameFunction_of_keyword htokens hkind hdef hwhite hword

/-- A letter outside ASCII names a function as well. -/
theorem function_named_iff_letter : ∃ lexer, NuShell.lexer = .ok lexer ∧
    lexer.tokenize "def é" = [⟨.keyword, "def", ⟨0, 3⟩⟩, ⟨.whitespace, " ", ⟨3, 4⟩⟩,
      ⟨.nameFunction, "é", ⟨4, 6⟩⟩] ∧
    ∃ left right, "def é".toList = left ++ right ∧
      (⟨.nameFunction, "é", ⟨4, 6⟩⟩ : Token) = Token.of .nameFunction (byteLength left)
        (right.takeWhile Unicode.isWordCharacter) := by
  obtain ⟨lexer, hlexer, hnamed⟩ := function_named_iff
  obtain rfl : ready = lexer := Except.ok.inj (lexer_eq.symm.trans hlexer)
  have htokens : ready.tokenize "def é" = [⟨.keyword, "def", ⟨0, 3⟩⟩, ⟨.whitespace, " ", ⟨3, 4⟩⟩,
      ⟨.nameFunction, "é", ⟨4, 6⟩⟩] := by decide +kernel
  have hget : (ready.tokenize "def é")[2]? = some ⟨.nameFunction, "é", ⟨4, 6⟩⟩ := by
    rw [htokens]
    rfl
  exact ⟨ready, lexer_eq, htokens, (hnamed _ _ _ hget).2 rfl⟩

end NuShell

end LexTable
