import LexTable.Proofs.Lexer.Shift
import LexTable.Proofs.Lexer.Tiling
import LexTable.Proofs.NuShell.Matches

/-!
# Starting over in the middle of a NuShell text

The NuShell lexer keeps nothing from the text that it has left behind, but for one character: a
word boundary sees whether the character before it belongs to a word. Where it does not, the tokens
from there on are those of the remaining text. The one place to stay away from is the inside of a
definition, whose name is read together with its keyword.
-/

namespace LexTable

open Text (byteLength)

namespace NuShell

/-- The rules see no more of the text before a match than whether it ends inside a word. -/
theorem ready_alike {before other : Option Char} (hword : Look.isWord before = Look.isWord other) :
    ready.Alike before other := by
  intro name rule hrule l hl after
  rcases looks_readyRules rule (mem_readyRules hrule) l hl with rfl | rfl
  · simp [Look.holds, hword]
  · rfl

/-- A token that is not the first of its match, nor a name, follows the keyword `def`. -/
theorem Makes.inner {position : Nat} {value : List Char} {tokens earlier later : List Token}
    {token : Token} (hmakes : Makes position value tokens)
    (htokens : tokens = earlier ++ token :: later) (hearlier : earlier ≠ [])
    (hkind : token.kind ≠ .nameFunction) :
    "def".toList <+: value ∧ token.span.start = position + 3 := by
  obtain ⟨first, earlier, rfl⟩ := List.exists_cons_of_ne_nil hearlier
  cases hmakes with
  | one kind value => simp at htokens
  | definition hspaces hname =>
    rw [List.cons_append, List.cons.injEq] at htokens
    cases earlier with
    | nil =>
      obtain rfl := (List.cons.inj htokens.2).1
      exact ⟨by simp, rfl⟩
    | cons second earlier =>
      rw [List.cons_append, List.cons.injEq] at htokens
      cases earlier with
      | nil =>
        obtain rfl := (List.cons.inj htokens.2.2).1
        exact absurd rfl hkind
      | cons third earlier => simp at htokens

/-- An element of two lists in a row is in the second of them or in the first. -/
theorem cut_append_cons {α : Type} {first second earlier later : List α} {x : α}
    (hall : first ++ second = earlier ++ x :: later) :
    (∃ more, earlier = first ++ more ∧ second = more ++ x :: later) ∨
      ∃ more, first = earlier ++ x :: more := by
  rcases List.append_eq_append_iff.1 hall with ⟨more, hearlier, hsecond⟩ | ⟨more, hfirst, hlater⟩
  · exact .inl ⟨more, hearlier, hsecond⟩
  · cases more with
    | nil => exact .inl ⟨[], by rw [hfirst, List.append_nil, List.append_nil], hlater.symm⟩
    | cons y more =>
      obtain ⟨rfl, -⟩ := List.cons.inj hlater
      exact .inr ⟨more, hfirst⟩

/-- A scan can be cut before every token that does not follow a word character, unless it is a name
of a definition. -/
theorem exists_scan_from {stack : Stack} {done rest : List Char} {scan : List Stretch}
    (hscan : Scan ready stack done rest scan) (hstack : stack = root) {earlier later : List Token}
    {token : Token} (htokens : scan.flatMap (·.tokens) = earlier ++ token :: later)
    (hkind : token.kind ≠ .nameFunction) :
    ∃ left right, rest = left ++ right ∧ token.span.start = byteLength (done ++ left) ∧
      (Look.isWord (done ++ left).getLast? = false → ∃ remaining,
        Scan ready root (done ++ left) right remaining ∧
        remaining.flatMap (·.tokens) = token :: later) := by
  induction hscan generalizing earlier with
  | finish stack done => simp at htokens
  | @step stack done rest length stretch stretches hstep hscan ih =>
    subst hstack
    obtain ⟨hroot, hmakes⟩ := consumes_makes hstep
    by_cases hearlier : earlier = []
    · subst hearlier
      have hall := Scan.step hstep hscan
      refine ⟨[], rest, rfl, ?_, ?_⟩
      · rw [List.append_nil]
        exact hall.tiles.head_start token (by simp [htokens])
      · intro _
        rw [List.append_nil]
        exact ⟨_, hall, htokens⟩
    · rw [List.flatMap_cons] at htokens
      rcases cut_append_cons htokens with ⟨more, rfl, hmore⟩ | ⟨more, hmore⟩
      · -- the token is of a later match
        obtain ⟨left, right, hsplit, hstart, hrest⟩ := ih hroot hmore
        rw [List.append_assoc] at hstart hrest
        refine ⟨rest.take length ++ left, right, ?_, hstart, hrest⟩
        rw [List.append_assoc, ← hsplit, List.take_append_drop]
      · -- the token is inside this match, right after `def`, whose last letter is before it
        obtain ⟨⟨after, htake⟩, hstart⟩ := hmakes.inner hmore hearlier hkind
        refine ⟨"def".toList, after ++ rest.drop length, ?_, ?_, ?_⟩
        · rw [← List.append_assoc, htake, List.take_append_drop]
        · rw [hstart, Text.byteLength_append]
          rfl
        · intro hword
          rw [List.getLast?_append_of_ne_nil _ (by decide)] at hword
          exact absurd hword (by decide)

/-- From a token that does not follow a word character on, the tokens are those of the remaining
text, moved to where it begins. Only the name of a definition is an exception. -/
theorem tokenize_restarts : ∃ lexer, NuShell.lexer = .ok lexer ∧
    ∀ (text : String) (earlier later : List Token) (token : Token),
      lexer.tokenize text = earlier ++ token :: later → token.kind ≠ .nameFunction →
      ∃ left right : String, text = left ++ right ∧ token.span.start = left.utf8ByteSize ∧
        ((∀ c ∈ left.toList.getLast?, Unicode.isWordCharacter c = false) →
          (lexer.tokenize right).map (Token.shift left.utf8ByteSize) = token :: later) := by
  refine ⟨ready, lexer_eq, ?_⟩
  intro text earlier later token htokens hkind
  obtain ⟨scan, hscan⟩ := (Cursor.At.start ready text).exists_scan
  rw [hscan.tokenize_eq] at htokens
  obtain ⟨left, right, hsplit, hstart, hrest⟩ := exists_scan_from hscan rfl htokens hkind
  rw [List.nil_append] at hstart hrest
  refine ⟨String.ofList left, String.ofList right, ?_, ?_, ?_⟩
  · rw [← String.ofList_append, ← hsplit]
    exact (String.ofList_toList ..).symm
  · rw [hstart, Text.utf8ByteSize_ofList]
  · intro hbefore
    rw [String.toList_ofList] at hbefore
    have hword : Look.isWord left.getLast? = false := by
      cases hlast : left.getLast? with
      | none => rfl
      | some c => exact hbefore c hlast
    obtain ⟨remaining, hremaining, hvalues⟩ := hrest hword
    obtain ⟨fresh, hfresh⟩ := (Cursor.At.start ready (String.ofList right)).exists_scan
    have hright : (Cursor.start (String.ofList right)).rest = right := String.toList_ofList
    rw [hright] at hfresh
    have halike : ready.Alike (left ++ []).getLast? [].getLast? := by
      rw [List.append_nil]
      exact ready_alike hword
    have hshift := hfresh.shift left halike
    rw [List.append_nil] at hshift
    obtain rfl := hshift.unique hremaining
    rw [Stretch.flatMap_tokens_shift] at hvalues
    rw [Text.utf8ByteSize_ofList, ← hvalues, Scan.tokenize_eq (hright ▸ hfresh)]

theorem tokenize_restarts_operators : ∃ lexer, NuShell.lexer = .ok lexer ∧
    lexer.tokenize "+ -" = [⟨.operator, "+", ⟨0, 1⟩⟩, ⟨.whitespace, " ", ⟨1, 2⟩⟩,
      ⟨.operator, "-", ⟨2, 3⟩⟩] ∧
    (lexer.tokenize " -").map (Token.shift 1) = [⟨.whitespace, " ", ⟨1, 2⟩⟩,
      ⟨.operator, "-", ⟨2, 3⟩⟩] := by
  obtain ⟨lexer, hlexer, hrestarts⟩ := tokenize_restarts
  obtain rfl : ready = lexer := Except.ok.inj (lexer_eq.symm.trans hlexer)
  have htokens : ready.tokenize "+ -" = [⟨.operator, "+", ⟨0, 1⟩⟩] ++
      ⟨.whitespace, " ", ⟨1, 2⟩⟩ :: [⟨.operator, "-", ⟨2, 3⟩⟩] := by decide +kernel
  refine ⟨ready, lexer_eq, htokens, ?_⟩
  obtain ⟨left, right, hsplit, hstart, hrest⟩ := hrestarts _ _ _ _ htokens (by decide)
  have hchars : ['+', ' ', '-'] = left.toList ++ right.toList := by
    rw [← String.toList_append, ← hsplit]
    rfl
  have hsize : 1 = byteLength left.toList := by rw [Text.byteLength_toList, ← hstart]
  obtain ⟨rfl, rfl⟩ : left = "+" ∧ right = " -" := by
    rw [← String.toList_inj, ← String.toList_inj]
    cases hleft : left.toList with
    | nil => simp [hleft, Text.byteLength] at hsize
    | cons c cs =>
      rw [hleft, List.cons_append, List.cons.injEq] at hchars
      rw [hleft, Text.byteLength, ← hchars.1] at hsize
      have hcs : cs = [] := by
        by_contra hne
        have hpos := Text.byteLength_pos hne
        have hplus : ('+' : Char).utf8Size = 1 := rfl
        omega
      rw [hcs, List.nil_append] at hchars
      exact ⟨by rw [hcs, ← hchars.1]; rfl, hchars.2.symm⟩
  apply hrest
  intro c hc
  obtain rfl : '+' = c := by simpa using hc
  decide

end NuShell

end LexTable
