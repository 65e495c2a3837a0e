import LexTable.Proofs.Lexer.Division
import LexTable.Proofs.Pattern.Groups

/-!
# Tokens of groups

An action by groups gives each group that does not reach back its own token and the text between
such groups to tokens of text. With a pattern that repeats no group, each byte of a match has the
kind of the outermost group around it.
-/

namespace LexTable

theorem Match.nests_of_match? {r : Regex} (hordered : r.Ordered) {before : Option Char}
    {text : List Char} {m : Match} (hmatch : r.match? before text = some m) : m.Nests := by
  intro index other hlt first last start stop hspans hother
  exact Regex.nested_of_match? hordered hmatch (Nat.succ_pos index) (Nat.succ_lt_succ hlt) hspans
    hother

/-- Whatever the places of its groups, as long as they are inside it, a match is divided into the
groups that own a token and the gaps between them. -/
theorem byGroups_divides (kinds : List Kind) (cursor : Cursor) (m : Match)
    (hlength : m.length ≤ cursor.rest.length)
    (hfits : ∀ index first last, m.Spans index first last → last ≤ m.length) :
    let text := cursor.rest.take m.length
    let tokens := m.groupTokens kinds cursor.position text
    (∀ (lexer : Lexer) (rule : Lexer.Rule),
      Lexer.firstMatch? cursor.before cursor.rest (lexer.rulesOf (cursor.state lexer)) =
        some (rule, m) → rule.action = .byGroups kinds →
      (cursor.step lexer).pending = cursor.pending ++ tokens) ∧
    Tiles cursor.position text tokens ∧
    tokens.Pairwise (fun token later ↦ token.span.start < later.span.start) ∧
    (∀ token, token ∈ tokens ↔
      (∃ index kind first last, kinds[index]? = some kind ∧ m.Owns index ∧
        m.Spans index first last ∧ token = .slice kind cursor.position text first last) ∨
      ∃ first last, m.Gap kinds.length first last ∧
        token = .slice .text cursor.position text first last) ∧
    ∀ (flags : Pattern.Flags) (pattern : List Char) (regex : Regex),
      Pattern.parse flags pattern = .ok regex → Pattern.RepeatsNoGroup flags pattern →
      regex.match? cursor.before cursor.rest = some m →
      ∀ token ∈ tokens, ∀ byte, token.span.start ≤ byte → byte < token.span.stop →
        (∃ index, kinds[index]? = some token.kind ∧
          m.Outermost cursor.position text kinds.length byte index) ∨
        token.kind = .text ∧
          ∀ index < kinds.length, ¬ m.Covers cursor.position text index byte := by
  intro text tokens
  have hchars : text.length = m.length := List.length_take_of_le hlength
  have htiles : Tiles cursor.position text tokens := Match.groupTokens_tiles hchars hfits
  refine ⟨?_, htiles, htiles.starts_increasing, fun token ↦ Match.mem_groupTokens_iff hfits, ?_⟩
  · intro lexer rule hfirst haction
    rw [Cursor.step, hfirst]
    change cursor.pending ++ Token.cut cursor.position text (rule.action.pieces m) = _
    rw [haction]
    rfl
  · intro flags pattern regex hparse hrepeats hmatch token htoken byte hstart hstop
    have hnests := Match.nests_of_match? (Pattern.ordered_of_parse hparse hrepeats) hmatch
    exact hnests.kind_of_mem_groupTokens hfits htoken hstart hstop

/-- A group inside another one has no token, and what follows both is text. -/
theorem byGroups_divides_nested :
    ∃ regex m, Pattern.parse {} "(a(b))c".toList = .ok regex ∧
      regex.match? none "abc".toList = some m ∧
      m.groupTokens [.keyword, .name] 0 "abc".toList =
        [⟨.keyword, "ab", ⟨0, 2⟩⟩, ⟨.text, "c", ⟨2, 3⟩⟩] ∧
      Tiles 0 "abc".toList (m.groupTokens [.keyword, .name] 0 "abc".toList) ∧
      ∃ index, [Kind.keyword, .name][index]? = some .keyword ∧
        m.Outermost 0 "abc".toList 2 1 index := by
  let letter (c : Char) : Regex := .chars (.single c)
  let regex : Regex := .seq (.group 1 (.seq (letter 'a') (.group 2 (letter 'b')))) (letter 'c')
  let m : Match := ⟨3, [some 0, some 2, some 1, some 2]⟩
  have hparse : Pattern.parse {} "(a(b))c".toList = .ok regex := rfl
  have hmatch : regex.match? none "abc".toList = some m := by decide +kernel
  have htokens : m.groupTokens [.keyword, .name] 0 "abc".toList =
      [⟨.keyword, "ab", ⟨0, 2⟩⟩, ⟨.text, "c", ⟨2, 3⟩⟩] := by decide
  have hrepeats : Pattern.RepeatsNoGroup {} "(a(b))c".toList := by
    rintro earlier symbol later hscan state - least most greedy rfl
    have hsymbols : earlier ++ .repetition least most greedy :: later =
        [.openCapture none, .literal 'a', .openCapture none, .literal 'b', .close, .close,
          .literal 'c'] := (Except.ok.inj hscan).symm
    have hmem : Pattern.Symbol.repetition least most greedy ∈
        earlier ++ .repetition least most greedy :: later :=
      List.mem_append_right _ List.mem_cons_self
    rw [hsymbols] at hmem
    simp at hmem
  have hfits : ∀ index first last, m.Spans index first last → last ≤ m.length :=
    fun index first last hspans ↦ (Regex.match?_fits hmatch).group_le (index + 1) first last hspans
  obtain ⟨-, htiles, -, -, houtermost⟩ :=
    byGroups_divides [.keyword, .name] (.start "abc") m (by decide) hfits
  have htoken : ⟨.keyword, "ab", ⟨0, 2⟩⟩ ∈ m.groupTokens [.keyword, .name] 0 "abc".toList := by
    rw [htokens]
    exact List.mem_cons_self
  refine ⟨regex, m, hparse, hmatch, htokens, htiles, ?_⟩
  rcases houtermost {} _ regex hparse hrepeats hmatch _ htoken 1 (by decide) (by decide) with
    ⟨index, hkind, hindex⟩ | ⟨htext, -⟩
  · exact ⟨index, hkind, hindex⟩
  · cases htext

end LexTable
