import LexTable.Proofs.NuShell.Strings

/-!
# What no NuShell rule reads

A character becomes an error if it does not lead to a match and is no quote with another one after
it. Only the name of a definition is read more freely than other names: it may begin with a
character that would be an error anywhere else.
-/

namespace LexTable

open Text (byteLength)

namespace NuShell

/-- The character does not lead to a match, and as a quote it has nothing to end its string. -/
structure Unlexable (c : Char) (after : List Char) : Prop where
  not_leads : leads c = false
  not_closed : ∀ kind, (c, kind) ∈ quotes → c ∉ after

theorem unmatched_iff {done : List Char} {c : Char} {after : List Char} :
    Unmatched readyRules done (c :: after) ↔ Unlexable c after := by
  constructor
  · intro hnone
    refine ⟨?_, fun kind hquote ↦ (unmatched_quote_iff hquote).1 hnone⟩
    rw [← Bool.not_eq_true]
    intro hleads
    exact not_unmatched_of_leads hleads done after hnone
  · rintro ⟨hleads, hclosed⟩ rule hrule m hconsumes
    rcases leads_of_consumes hrule hconsumes with hnot | ⟨kind, hquote, -⟩
    · rw [hleads] at hnot
      cases hnot
    · exact (unmatched_quote_iff hquote).2 (hclosed kind hquote) rule hrule m hconsumes

theorem kind_of_mem_readyRules {regex : Regex} {kind : Kind}
    (hrule : tokenRule regex kind ∈ readyRules) :
    kind ≠ .error ∧ kind ≠ .text ∧ kind ≠ .nameFunction := by
  have hkinds : ∀ rule ∈ readyRules, ∀ kind, rule.action = .token kind →
      kind ≠ .error ∧ kind ≠ .text ∧ kind ≠ .nameFunction := by
    simp [readyRules, tokenRule, definitionRule]
  exact hkinds _ hrule kind rfl

theorem not_unlexable_of_leads {c : Char} (hc : leads c) (after : List Char) :
    ¬ Unlexable c after := by
  intro hnot
  rw [hnot.not_leads] at hc
  cases hc

/-- A token was read by a rule from where its first character led to, or it is the name of a
definition, or it is an error. -/
theorem Arises.judged {done rest : List Char} {token : Token} (harises : Arises done rest token) :
    ∃ c after, rest = c :: after ∧
      ((¬ Unlexable c after ∧ token.kind ≠ .error ∧ token.kind ≠ .text ∧
          token.kind ≠ .nameFunction) ∨
        (Unicode.isWordCharacter c ∧ token.kind = .nameFunction) ∨
        (Unlexable c after ∧ token = Token.of .error (byteLength done) [c])) := by
  cases harises with
  | @whole regex kind rest m happlies =>
    have hne : rest ≠ [] := by
      rintro rfl
      exact absurd happlies.fits.length_le (Nat.not_le_of_gt happlies.length_pos)
    obtain ⟨c, after, rfl⟩ := List.exists_cons_of_ne_nil hne
    refine ⟨c, after, rfl, .inl ⟨?_, kind_of_mem_readyRules happlies.mem⟩⟩
    rw [← unmatched_iff]
    exact happlies.not_unmatched
  | keyword after =>
    refine ⟨'d', _, rfl, .inl ⟨not_unlexable_of_leads (by decide) _, ?_⟩⟩
    simp [Token.of]
  | space hne hspaces after =>
    obtain ⟨c, cs, rfl⟩ := List.exists_cons_of_ne_nil hne
    have hspace : Unicode.isWhiteSpace c := hspaces c (List.mem_cons_self ..)
    refine ⟨c, cs ++ after, rfl, .inl ⟨not_unlexable_of_leads ?_ _, ?_⟩⟩
    · simp [leads, hspace]
    · simp [Token.of]
  | name hne hletters after =>
    obtain ⟨c, cs, rfl⟩ := List.exists_cons_of_ne_nil hne
    exact ⟨c, cs ++ after, rfl, .inr (.inl ⟨hletters c (List.mem_cons_self ..), rfl⟩)⟩
  | @error c after hnone => exact ⟨c, after, rfl, .inr (.inr ⟨unmatched_iff.1 hnone, rfl⟩)⟩

/-- An error is a single character and no newline. -/
theorem exists_of_error {text : String} {token : Token} (htoken : token ∈ ready.tokenize text)
    (herror : token.kind = .error) : ∃ left c right, text.toList = left ++ c :: right ∧
      token = Token.of .error (byteLength left) [c] ∧ c ≠ '\n' := by
  obtain ⟨left, rest, htext, harises⟩ := exists_arises htoken
  obtain ⟨c, right, rfl, hread | hname | hunread⟩ := harises.judged
  · exact absurd herror hread.2.1
  · rw [hname.2] at herror
    cases herror
  · refine ⟨left, c, right, htext, hunread.2, ?_⟩
    rintro rfl
    exact not_unlexable_of_leads (by decide) right hunread.1

/-- The errors are the characters that no rule reads, one by one. The name of a definition is never
one of them. -/
theorem error_iff_unlexable : ∃ lexer, NuShell.lexer = .ok lexer ∧
    ∀ (text : String) (token : Token), token ∈ lexer.tokenize text →
      ∃ left c right, text.toList = left ++ c :: right ∧ token.span.start = byteLength left ∧
        (token.kind ≠ .nameFunction → (token.kind = .error ↔ Unlexable c right)) ∧
        (token.kind = .nameFunction → Unicode.isWordCharacter c) ∧
        (token.kind = .error → token.value = String.singleton c ∧ c ≠ '\n') ∧
        token.kind ≠ .text := by
  refine ⟨ready, lexer_eq, ?_⟩
  intro text token htoken
  obtain ⟨left, rest, htext, harises⟩ := exists_arises htoken
  have hstart := harises.start_eq
  obtain ⟨c, right, rfl, hread | hname | herror⟩ := harises.judged
  · obtain ⟨hlexable, herror, hkind, hname⟩ := hread
    refine ⟨left, c, right, htext, hstart, ?_, ?_, ?_, hkind⟩
    · intro _
      exact iff_of_false herror hlexable
    · intro h
      exact absurd h hname
    · intro h
      exact absurd h herror
  · obtain ⟨hword, hkind⟩ := hname
    refine ⟨left, c, right, htext, hstart, ?_, fun _ ↦ hword, ?_, ?_⟩
    · intro hname
      exact absurd hkind hname
    · intro herror
      rw [hkind] at herror
      cases herror
    · simp [hkind]
  · obtain ⟨hunlexable, rfl⟩ := herror
    refine ⟨left, c, right, htext, hstart, fun _ ↦ iff_of_true rfl hunlexable, ?_, ?_, ?_⟩
    · intro hname
      cases hname
    · intro _
      refine ⟨rfl, ?_⟩
      rintro rfl
      exact not_unlexable_of_leads (by decide) right hunlexable
    · simp [Token.of]

/-- A quote that nothing follows is an error, so no rule reads it. -/
theorem error_iff_unlexable_quote : ∃ lexer, NuShell.lexer = .ok lexer ∧
    lexer.tokenize "'" = [⟨.error, "'", ⟨0, 1⟩⟩] ∧ Unlexable '\'' [] := by
  obtain ⟨lexer, hlexer, hjudged⟩ := error_iff_unlexable
  obtain rfl : ready = lexer := Except.ok.inj (lexer_eq.symm.trans hlexer)
  have htokens : ready.tokenize "'" = [⟨.error, "'", ⟨0, 1⟩⟩] := by decide +kernel
  refine ⟨ready, lexer_eq, htokens, ?_⟩
  obtain ⟨left, c, right, htext, hstart, herror, -⟩ :=
    hjudged _ _ (htokens ▸ List.mem_singleton_self _)
  have hsplit : [] ++ ['\''] = left ++ c :: right := htext
  obtain ⟨-, hrest⟩ := Text.append_inj_of_byteLength_eq hsplit hstart
  obtain ⟨rfl, rfl⟩ := List.cons.inj hrest
  exact (herror (by decide)).1 rfl

/-- Without the exception for names it does not hold: the name of a definition may begin with a
letter that is an error anywhere else. -/
theorem unlexable_name : ¬ ∀ lexer, NuShell.lexer = .ok lexer →
    ∀ (text : String) (token : Token), token ∈ lexer.tokenize text →
      ∃ left c right, text.toList = left ++ c :: right ∧ token.span.start = byteLength left ∧
        (token.kind = .error ↔ Unlexable c right) ∧
        (token.kind = .error → token.value = String.singleton c ∧ c ≠ '\n') ∧
        token.kind ≠ .text := by
  intro hall
  have htokens : ready.tokenize "def é" = [⟨.keyword, "def", ⟨0, 3⟩⟩, ⟨.whitespace, " ", ⟨3, 4⟩⟩,
      ⟨.nameFunction, "é", ⟨4, 6⟩⟩] := by decide +kernel
  obtain ⟨left, c, right, htext, hstart, herror, -⟩ :=
    hall ready lexer_eq "def é" ⟨.nameFunction, "é", ⟨4, 6⟩⟩ (by simp [htokens])
  have hsplit : ['d', 'e', 'f', ' '] ++ ['é'] = left ++ c :: right := htext
  obtain ⟨-, hrest⟩ := Text.append_inj_of_byteLength_eq hsplit hstart
  obtain ⟨rfl, rfl⟩ := List.cons.inj hrest
  have hunlexable : Unlexable 'é' [] := ⟨by decide +kernel, by simp⟩
  cases herror.2 hunlexable

end NuShell

end LexTable
