import LexTable.Proofs.NuShell.Tokens

/-!
# Strings in NuShell

A string ends at the first quote that no backslash escapes, or at the last quote of the text if all
of them are escaped. The expression for strings does not say so: a backslash is also a character
like any other to it, and which way through it comes first decides. That way is found by a scan
from left to right, which comes back to an escaped quote only when no other quote follows.
-/

namespace LexTable

open Text (byteLength)

namespace NuShell

/-- How many backslashes stand at the end. -/
def backslashes (inside : List Char) : Nat :=
  (inside.reverse.takeWhile (· == '\\')).length

/-- After `inside` comes a quote that is not escaped: an even number of backslashes stands right
before it. -/
structure Free (quote : Char) (body inside : List Char) : Prop where
  exists_rest : ∃ rest, body = inside ++ quote :: rest
  even : backslashes inside % 2 = 0

/-- The body of a string ends after `inside`. -/
inductive Closes (quote : Char) (body inside : List Char) : Prop
  | first (hfree : Free quote body inside)
      (hfirst : ∀ other, Free quote body other → inside.length ≤ other.length)
  | last {rest : List Char} (hnone : ∀ other, ¬ Free quote body other)
      (hbody : body = inside ++ quote :: rest) (hlast : quote ∉ rest)

/-- Looks for the end of a string, and takes two characters at a time where a backslash stands. The
result counts the quote. -/
def closing? (quote : Char) : List Char → Option Nat
  | [] => none
  | [c] => if c = quote then some 1 else none
  | c :: d :: rest =>
    if c = quote then some 1
    else if c = '\\' then
      ((closing? quote rest).map (2 + ·)).or (if d = quote then some 2 else none)
    else (closing? quote (d :: rest)).map (1 + ·)

section scan

variable {quote : Char} {body inside : List Char}

theorem backslashes_append {start : List Char} (hstart : backslashes start % 2 = 0)
    (inside : List Char) : backslashes (start ++ inside) % 2 = backslashes inside % 2 := by
  rw [backslashes, List.reverse_append, List.takeWhile_append]
  split
  · next hall =>
    rw [List.length_append, ← hall, Nat.add_mod]
    change (backslashes inside % 2 + backslashes start % 2) % 2 = _
    rw [hstart, Nat.add_zero, Nat.mod_mod]
  · rfl

/-- Text without a free quote that leaves no backslash open can be skipped. -/
theorem free_append_iff {start : List Char} (heven : backslashes start % 2 = 0)
    (hstart : ∀ other, ¬ Free quote start other) :
    Free quote (start ++ body) inside ↔ ∃ more, inside = start ++ more ∧ Free quote body more := by
  constructor
  · rintro ⟨⟨rest, hrest⟩, hinside⟩
    rcases List.append_eq_append_iff.1 hrest with ⟨more, hmore, hbody⟩ | ⟨more, hmore, hbody⟩
    · rw [hmore, backslashes_append heven] at hinside
      exact ⟨more, hmore, ⟨rest, hbody⟩, hinside⟩
    · cases more with
      | nil =>
        rw [List.append_nil] at hmore
        exact ⟨[], by rw [hmore, List.append_nil], ⟨rest, hbody.symm⟩, rfl⟩
      | cons c more =>
        rw [List.cons_append, List.cons.injEq] at hbody
        rw [← hbody.1] at hmore
        exact absurd ⟨⟨more, hmore⟩, hinside⟩ (hstart inside)
  · rintro ⟨more, rfl, ⟨rest, rfl⟩, hmore⟩
    refine ⟨⟨rest, (List.append_assoc ..).symm⟩, ?_⟩
    rw [backslashes_append heven, hmore]

theorem Closes.append {start : List Char} (heven : backslashes start % 2 = 0)
    (hstart : ∀ other, ¬ Free quote start other) (hcloses : Closes quote body inside) :
    Closes quote (start ++ body) (start ++ inside) := by
  cases hcloses with
  | first hfree hfirst =>
    refine .first ((free_append_iff heven hstart).2 ⟨inside, rfl, hfree⟩) ?_
    intro other hother
    obtain ⟨more, rfl, hmore⟩ := (free_append_iff heven hstart).1 hother
    rw [List.length_append, List.length_append]
    exact Nat.add_le_add_left (hfirst more hmore) _
  | last hnone hbody hlast =>
    refine .last ?_ (by rw [hbody, List.append_assoc]) hlast
    intro other hother
    obtain ⟨more, -, hmore⟩ := (free_append_iff heven hstart).1 hother
    exact hnone more hmore

theorem Closes.exists_rest (hcloses : Closes quote body inside) :
    ∃ rest, body = inside ++ quote :: rest := by
  cases hcloses with
  | first hfree => exact hfree.exists_rest
  | last hnone hbody => exact ⟨_, hbody⟩

theorem Free.mem (hfree : Free quote body inside) : quote ∈ body := by
  obtain ⟨rest, rfl⟩ := hfree.exists_rest
  simp

/-- A backslash escapes the character after it, whichever it is. -/
theorem even_backslashes_pair (d : Char) : backslashes ['\\', d] % 2 = 0 := by
  by_cases hd : d = '\\' <;> simp [backslashes, hd]

theorem not_free_pair (hquote : quote ≠ '\\') (d : Char) (other : List Char) :
    ¬ Free quote ['\\', d] other := by
  rintro ⟨⟨rest, hrest⟩, heven⟩
  cases other with
  | nil => exact hquote (List.cons.inj hrest).1.symm
  | cons c other =>
    obtain ⟨rfl, hrest⟩ := List.cons.inj hrest
    cases other with
    | nil => exact absurd heven (by decide)
    | cons e other => simp at hrest

theorem even_backslashes_single {c : Char} (hc : c ≠ '\\') : backslashes [c] % 2 = 0 := by
  simp [backslashes, hc]

theorem not_free_single {c : Char} (hc : c ≠ quote) (other : List Char) :
    ¬ Free quote [c] other := by
  intro hfree
  exact hc (List.mem_singleton.1 hfree.mem).symm

theorem closes_nil (rest : List Char) : Closes quote (quote :: rest) [] :=
  .first ⟨⟨rest, rfl⟩, rfl⟩ fun _ _ ↦ Nat.zero_le _

/-- An escaped quote ends a string that no other quote could end. -/
theorem closes_escaped (hquote : quote ≠ '\\') {rest : List Char} (hrest : quote ∉ rest) :
    Closes quote ('\\' :: quote :: rest) ['\\'] := by
  refine .last ?_ rfl hrest
  intro other hother
  obtain ⟨more, -, hmore⟩ :=
    (free_append_iff (even_backslashes_pair quote) (not_free_pair hquote quote)).1 hother
  exact hrest hmore.mem

theorem closing?_eq_none_iff : closing? quote body = none ↔ quote ∉ body := by
  fun_induction closing? quote body with
  | case1 => simp
  | case2 => simp
  | case3 c hc => simp [Ne.symm hc]
  | case4 => simp
  | case5 d rest hne ih =>
    rw [Option.or_eq_none_iff, Option.map_eq_none_iff, ih]
    simp [Ne.symm hne, and_comm, eq_comm]
  | case6 c d rest hne hc ih =>
    rw [Option.map_eq_none_iff, ih]
    simp [Ne.symm hne]

/-- The scan finds the end of a string. -/
theorem closes_of_closing? (hquote : quote ≠ '\\') {length : Nat}
    (hlength : closing? quote body = some length) :
    ∃ inside, Closes quote body inside ∧ length = inside.length + 1 := by
  fun_induction closing? quote body generalizing length with
  | case1 => cases hlength
  | case2 =>
    obtain rfl := Option.some.inj hlength
    exact ⟨[], closes_nil [], rfl⟩
  | case3 c hc => cases hlength
  | case4 d rest =>
    obtain rfl := Option.some.inj hlength
    exact ⟨[], closes_nil (d :: rest), rfl⟩
  | case5 d rest hne ih =>
    cases hrest : closing? quote rest with
    | some length =>
      -- what follows the backslash is escaped, even if it is a quote
      rw [hrest, Option.map_some, Option.some_or, Option.some.injEq] at hlength
      obtain ⟨inside, hcloses, rfl⟩ := ih hrest
      have hskip := hcloses.append (even_backslashes_pair d) (not_free_pair hquote d)
      refine ⟨['\\', d] ++ inside, hskip, ?_⟩
      rw [← hlength, List.length_append, List.length_cons, List.length_singleton, Nat.add_assoc]
    | none =>
      rw [hrest, Option.map_none, Option.none_or] at hlength
      split at hlength
      · next hd =>
        obtain rfl := Option.some.inj hlength
        exact ⟨['\\'], hd ▸ closes_escaped hquote (closing?_eq_none_iff.1 hrest), rfl⟩
      · cases hlength
  | case6 c d rest hne hc ih =>
    obtain ⟨more, hmore, rfl⟩ := Option.map_eq_some_iff.1 hlength
    obtain ⟨inside, hcloses, rfl⟩ := ih hmore
    refine ⟨[c] ++ inside, hcloses.append (even_backslashes_single hc) (not_free_single hne), ?_⟩
    rw [List.length_append, List.length_singleton, Nat.add_assoc]

end scan

/-- One round through the text of a string: an escaped character, or any other than the quote. -/
def roundRegex (quote : Char) : Regex :=
  .group 1 (.alt (.seq (.chars (.single '\\')) (.chars (.single '\\')))
    (.alt (.seq (.chars (.single '\\')) (.chars (.single quote)))
      (.chars (.compl (.single quote)))))

/-- What follows the first quote of a string. -/
def bodyRegex (quote : Char) : Regex :=
  .seq (.star true (roundRegex quote)) (.chars (.single quote))

/-- The way past a round of so many characters. -/
def past (way : Way) (count : Nat) : Way :=
  ((way.mark 0).skip count).mark 1

section ways

variable {quote : Char} {way : Way} {rest : List Char}

theorem past_rest (way : Way) (count : Nat) : (past way count).rest = way.rest.drop count := rfl

theorem past_one_rest {c : Char} (hrest : way.rest = c :: rest) : (past way 1).rest = rest := by
  rw [past_rest, hrest, List.drop_one, List.tail_cons]

theorem past_offset (way : Way) (count : Nat) : (past way count).offset = way.offset + count := rfl

theorem ways_round_quote (hquote : quote ≠ '\\') (hrest : way.rest = quote :: rest) :
    (roundRegex quote).ways way = [] := by
  simp [roundRegex, Regex.ways, Way.take_eq, hrest, CharSet.contains, hquote]

theorem ways_round_other {c : Char} (hquote : c ≠ quote) (hc : c ≠ '\\')
    (hrest : way.rest = c :: rest) : (roundRegex quote).ways way = [past way 1] := by
  simp [roundRegex, Regex.ways, Way.take_eq, hrest, CharSet.contains, hquote, hc, past]

theorem ways_round_escape (hquote : quote ≠ '\\') {d : Char}
    (hrest : way.rest = '\\' :: d :: rest) :
    (roundRegex quote).ways way =
      if d = '\\' ∨ d = quote then [past way 2, past way 1] else [past way 1] := by
  by_cases hd : d = '\\'
  · simp [roundRegex, Regex.ways, Way.take_eq, hrest, CharSet.contains, hd, past, Way.skip_skip,
      hquote.symm]
  · by_cases hq : d = quote
    · simp [roundRegex, Regex.ways, Way.take_eq, hrest, CharSet.contains, hq, past, Way.skip_skip,
        hquote, hquote.symm]
    · simp [roundRegex, Regex.ways, Way.take_eq, hrest, CharSet.contains, hd, hq, past,
        hquote.symm]

theorem ways_bodyRegex (quote : Char) (way : Way) : (bodyRegex quote).ways way =
    ((roundRegex quote).ways way).flatMap (bodyRegex quote).ways ++ way.take (.single quote) := by
  rw [bodyRegex, Regex.ways, Regex.ways_star rfl, Regex.prefer, if_pos rfl, List.flatMap_append,
    List.flatMap_assoc, List.flatMap_singleton]
  rfl

/-- Without another quote there is no way. -/
theorem ways_bodyRegex_eq_nil (hquote : quote ∉ way.rest) : (bodyRegex quote).ways way = [] := by
  apply List.eq_nil_iff_forall_not_mem.2
  intro after hafter
  rw [bodyRegex, Regex.ways, List.mem_flatMap] at hafter
  obtain ⟨middle, hmiddle, hafter⟩ := hafter
  obtain ⟨piece, hpiece, -⟩ := Regex.exists_passes hmiddle
  obtain ⟨c, hc, hlast, -⟩ := Way.passes_of_mem_take hafter
  obtain rfl : c = quote := beq_iff_eq.1 hc
  apply hquote
  rw [hpiece.rest_eq, hlast.rest_eq]
  simp

theorem ways_bodyRegex_quote (hquote : quote ≠ '\\') (hrest : way.rest = quote :: rest) :
    (bodyRegex quote).ways way = [way.skip 1] := by
  rw [ways_bodyRegex, ways_round_quote hquote hrest, Way.take_eq, hrest]
  simp [CharSet.contains]

theorem ways_bodyRegex_other {c : Char} (hquote : c ≠ quote) (hc : c ≠ '\\')
    (hrest : way.rest = c :: rest) :
    (bodyRegex quote).ways way = (bodyRegex quote).ways (past way 1) := by
  rw [ways_bodyRegex, ways_round_other hquote hc hrest, Way.take_eq, hrest]
  simp [CharSet.contains, hquote]

theorem ways_bodyRegex_escape (hquote : quote ≠ '\\') {d : Char}
    (hrest : way.rest = '\\' :: d :: rest) :
    (bodyRegex quote).ways way =
      if d = '\\' ∨ d = quote then
        (bodyRegex quote).ways (past way 2) ++ (bodyRegex quote).ways (past way 1)
      else (bodyRegex quote).ways (past way 1) := by
  rw [ways_bodyRegex, ways_round_escape hquote hrest, Way.take_eq, hrest]
  split <;> simp [CharSet.contains, hquote.symm]

/-- The first way leads to where the scan finds the end. -/
theorem head?_ways_bodyRegex (hquote : quote ≠ '\\') {body : List Char} (hrest : way.rest = body) :
    ((bodyRegex quote).ways way).head?.map (·.offset) =
      (closing? quote body).map (way.offset + ·) := by
  fun_induction closing? quote body generalizing way with
  | case1 =>
    rw [ways_bodyRegex_eq_nil (by simp [hrest])]
    rfl
  | case2 =>
    rw [ways_bodyRegex_quote hquote hrest]
    rfl
  | case3 c hc =>
    rw [ways_bodyRegex_eq_nil (by simp [hrest, Ne.symm hc])]
    rfl
  | case4 d rest =>
    rw [ways_bodyRegex_quote hquote hrest]
    rfl
  | case5 d rest hne ih =>
    have hone := past_one_rest hrest
    have htwo : (past way 2).rest = rest := by
      rw [past_rest, hrest]
      rfl
    rw [ways_bodyRegex_escape hquote hrest]
    split
    · next hd =>
      -- the way past both characters comes first, so that the one past the backslash alone counts
      -- only if no quote follows
      rw [List.head?_append, Option.map_or, ih htwo]
      cases hlater : closing? quote rest with
      | some length => simp [past_offset, Nat.add_assoc]
      | none =>
        by_cases hd : d = quote
        · rw [ways_bodyRegex_quote hquote (hd ▸ hone)]
          simp [hd, Way.skip, past_offset, Nat.add_assoc]
        · have hnot := closing?_eq_none_iff.1 hlater
          rw [ways_bodyRegex_eq_nil (by simp [hone, Ne.symm hd, hnot])]
          simp [hd]
    · next hd =>
      obtain ⟨hescape, hd⟩ := not_or.1 hd
      rw [ways_bodyRegex_other hd hescape hone, ih (past_one_rest hone)]
      simp [hd, past_offset, Nat.add_assoc, Function.comp_def]
  | case6 c d rest hne hc ih =>
    rw [ways_bodyRegex_other hne hc hrest, ih (past_one_rest hrest)]
    simp [past_offset, Nat.add_assoc, Function.comp_def]

end ways

theorem length_match?_quotedRegex {quote : Char} (hquote : quote ≠ '\\') (before : Option Char)
    (body : List Char) :
    ((quotedRegex quote).match? before (quote :: body)).map (·.length) =
      (closing? quote body).map (1 + ·) := by
  rw [Regex.match?_eq rfl]
  let unset : Slots := List.replicate (2 * (quotedRegex quote).lastGroup) none
  let start : Way := ⟨before, quote :: body, 0, unset⟩
  have hfirst : (CharSet.single quote).contains quote := beq_self_eq_true quote
  have hways : (quotedRegex quote).ways start = (bodyRegex quote).ways (start.skip 1) :=
    Regex.ways_seq_chars rfl hfirst _
  have hrest : (start.skip 1).rest = body := rfl
  rw [hways, Option.map_map]
  exact head?_ways_bodyRegex hquote hrest

theorem ne_backslash_of_mem_quotes {quote : Char} {kind : Kind} (hquote : (quote, kind) ∈ quotes) :
    quote ≠ '\\' := by
  rintro rfl
  simp [quotes] at hquote

theorem mem_readyRules_of_mem_quotes {quote : Char} {kind : Kind}
    (hquote : (quote, kind) ∈ quotes) : tokenRule (quotedRegex quote) kind ∈ readyRules := by
  simp only [quotes, List.mem_cons, List.not_mem_nil, or_false, Prod.mk.injEq] at hquote
  rcases hquote with ⟨rfl, rfl⟩ | ⟨rfl, rfl⟩ <;> simp [readyRules]

section quote

variable {quote : Char} {kind : Kind} {done body : List Char}

theorem unmatched_quote_iff (hquote : (quote, kind) ∈ quotes) :
    Unmatched readyRules done (quote :: body) ↔ quote ∉ body := by
  have hlength := length_match?_quotedRegex (ne_backslash_of_mem_quotes hquote) done.getLast? body
  rw [← closing?_eq_none_iff]
  constructor
  · intro hnone
    cases hclosing : closing? quote body with
    | none => rfl
    | some length =>
      rw [hclosing, Option.map_some, Option.map_eq_some_iff] at hlength
      obtain ⟨m, hmatch, hm⟩ := hlength
      exact absurd ⟨hmatch, by omega⟩ (hnone _ (mem_readyRules_of_mem_quotes hquote) m)
  · rintro hclosing rule hrule m hconsumes
    obtain rfl := eq_of_consumes_at_quote hrule hquote hconsumes
    have hmatch : (quotedRegex quote).match? done.getLast? (quote :: body) = some m := hconsumes.1
    rw [hmatch, hclosing] at hlength
    cases hlength

theorem exists_closes_of_match? (hquote : quote ≠ '\\') {before : Option Char} {m : Match}
    (hmatch : (quotedRegex quote).match? before (quote :: body) = some m) :
    ∃ inside, Closes quote body inside ∧
      (quote :: body).take m.length = quote :: inside ++ [quote] := by
  have hlength := length_match?_quotedRegex hquote before body
  rw [hmatch, Option.map_some, eq_comm, Option.map_eq_some_iff] at hlength
  obtain ⟨length, hclosing, hlength⟩ := hlength
  obtain ⟨inside, hcloses, rfl⟩ := closes_of_closing? hquote hclosing
  obtain ⟨rest, rfl⟩ := hcloses.exists_rest
  refine ⟨inside, hcloses, ?_⟩
  have hall : m.length = (quote :: inside ++ [quote]).length := by
    rw [← hlength, List.cons_append, List.length_cons, List.length_append, List.length_singleton,
      Nat.add_comm]
  have hsplit : quote :: (inside ++ quote :: rest) = (quote :: inside ++ [quote]) ++ rest := by simp
  rw [hall, hsplit, List.take_left]

/-- No other part of a definition begins with a quote. -/
theorem not_contains_quote (hquote : (quote, kind) ∈ quotes) :
    spaceSet.contains quote = false ∧ wordSet.contains quote = false := by
  revert hquote
  simp only [quotes, List.mem_cons, List.not_mem_nil, or_false, Prod.mk.injEq]
  rintro (⟨rfl, -⟩ | ⟨rfl, -⟩) <;> decide +kernel

/-- What begins at a quote is the string up to its end, or the quote alone. -/
theorem Arises.at_quote (hquote : (quote, kind) ∈ quotes) {rest : List Char} {token : Token}
    (harises : Arises done rest token) (hrest : rest = quote :: body) :
    (∃ inside, Closes quote body inside ∧
      token = Token.of kind (byteLength done) (quote :: inside ++ [quote])) ∨
    quote ∉ body ∧ token = Token.of .error (byteLength done) [quote] := by
  cases harises with
  | @whole regex other rest m happlies =>
    subst hrest
    have hconsumes := happlies.consumes
    have hrule := eq_of_consumes_at_quote happlies.mem hquote hconsumes
    obtain ⟨rfl, rfl⟩ : regex = quotedRegex quote ∧ other = kind := by simpa [tokenRule] using hrule
    obtain ⟨inside, hcloses, htake⟩ :=
      exists_closes_of_match? (ne_backslash_of_mem_quotes hquote) hconsumes.1
    exact .inl ⟨inside, hcloses, by rw [htake]⟩
  | keyword after =>
    obtain rfl : 'd' = quote := (List.cons.inj hrest).1
    simp [quotes] at hquote
  | space hne hspaces after =>
    obtain ⟨c, cs, rfl⟩ := List.exists_cons_of_ne_nil hne
    obtain rfl := (List.cons.inj hrest).1
    have hspace := hspaces c (List.mem_cons_self ..)
    rw [(not_contains_quote hquote).1] at hspace
    cases hspace
  | name hne hletters after =>
    obtain ⟨c, cs, rfl⟩ := List.exists_cons_of_ne_nil hne
    obtain rfl := (List.cons.inj hrest).1
    have hletter := hletters c (List.mem_cons_self ..)
    rw [(not_contains_quote hquote).2] at hletter
    cases hletter
  | @error c after hnone =>
    obtain ⟨rfl, rfl⟩ := List.cons.inj hrest
    exact .inr ⟨(unmatched_quote_iff hquote).1 hnone, rfl⟩

end quote

/-- A string ends at the first quote after an even number of backslashes, at the last quote of the
text if there is none, and a quote without another one after it is no string. -/
theorem string_ends : ∃ lexer, NuShell.lexer = .ok lexer ∧
    ∀ (text : String) (token : Token), token ∈ lexer.tokenize text →
      ∀ (quote : Char) (kind : Kind), (quote, kind) ∈ quotes →
      ∀ left body : List Char, text.toList = left ++ quote :: body →
      token.span.start = byteLength left →
        ((∃ inside, Free quote body inside) → ∃ inside, Free quote body inside ∧
          (∀ other, Free quote body other → inside.length ≤ other.length) ∧
          token = Token.of kind (byteLength left) (quote :: inside ++ [quote])) ∧
        ((¬ ∃ inside, Free quote body inside) → quote ∈ body → ∃ inside rest,
          body = inside ++ quote :: rest ∧ quote ∉ rest ∧
          token = Token.of kind (byteLength left) (quote :: inside ++ [quote])) ∧
        (quote ∉ body → token = Token.of .error (byteLength left) [quote]) := by
  refine ⟨ready, lexer_eq, ?_⟩
  intro text token htoken quote kind hquote left body htext hstart
  have harises := arises_of_start htoken htext hstart
  rcases harises.at_quote hquote rfl with ⟨inside, hcloses, htoken⟩ | ⟨hnot, htoken⟩
  · have hmem : quote ∈ body := by
      obtain ⟨rest, rfl⟩ := hcloses.exists_rest
      simp
    cases hcloses with
    | first hfree hfirst =>
      refine ⟨fun _ ↦ ⟨inside, hfree, hfirst, htoken⟩, ?_, fun hnot ↦ absurd hmem hnot⟩
      intro hnone
      exact absurd ⟨inside, hfree⟩ hnone
    | last hnone hbody hlast =>
      refine ⟨?_, fun _ _ ↦ ⟨inside, _, hbody, hlast, htoken⟩, fun hnot ↦ absurd hmem hnot⟩
      rintro ⟨other, hother⟩
      exact absurd hother (hnone other)
  · refine ⟨?_, fun _ hmem ↦ absurd hmem hnot, fun _ ↦ htoken⟩
    rintro ⟨other, hother⟩
    exact absurd hother.mem hnot

/-- The only other quote is escaped, and ends the string for want of another one. -/
theorem string_ends_escaped : ∃ lexer, NuShell.lexer = .ok lexer ∧
    lexer.tokenize "\"a\\\"" = [⟨.stringDouble, "\"a\\\"", ⟨0, 4⟩⟩] ∧
    (¬ ∃ inside, Free '"' ['a', '\\', '"'] inside) ∧
    ∃ inside rest, ['a', '\\', '"'] = inside ++ '"' :: rest ∧ '"' ∉ rest ∧
      (⟨.stringDouble, "\"a\\\"", ⟨0, 4⟩⟩ : Token) =
        Token.of .stringDouble 0 ('"' :: inside ++ ['"']) := by
  obtain ⟨lexer, hlexer, hends⟩ := string_ends
  obtain rfl : ready = lexer := Except.ok.inj (lexer_eq.symm.trans hlexer)
  have htokens : ready.tokenize "\"a\\\"" = [⟨.stringDouble, "\"a\\\"", ⟨0, 4⟩⟩] := by
    decide +kernel
  have hescaped : ¬ ∃ inside, Free '"' ['a', '\\', '"'] inside := by
    rintro ⟨inside, ⟨rest, hrest⟩, heven⟩
    have hinside : inside = ['a', '\\'] := by
      rcases inside with _ | ⟨first, _ | ⟨second, _ | ⟨third, inside⟩⟩⟩ <;> simp at hrest
      rw [← hrest.1, ← hrest.2.1]
    rw [hinside] at heven
    exact absurd heven (by decide)
  refine ⟨ready, lexer_eq, htokens, hescaped, ?_⟩
  obtain ⟨-, hlast, -⟩ := hends _ _ (htokens ▸ List.mem_singleton_self _) '"' .stringDouble
    (by simp [quotes]) [] ['a', '\\', '"'] rfl rfl
  exact hlast hescaped (by decide)

end NuShell

end LexTable
