import LexTable.Proofs.Lexer.Tiling
import LexTable.Proofs.Render.Names
import LexTable.Proofs.Text.Lines
import LexTable.Proofs.Text.Quoting
import LexTable.Render.Raw

/-!
# Reading token listings

A listing has one line for each token, whatever the token's text is, and from the line the kind and
the text can be read back. The tokens of a whole text tile it, so that their places, and the text
itself, can be read off their listing too.
-/

namespace LexTable.Render

/-- What a listing shows of a token. -/
def shown (token : Token) : Kind × String :=
  (token.kind, token.value)

def readLine? (line : List Char) : Option (Kind × String) :=
  let name := line.takeWhile (· != '\t')
  match line.drop name.length with
  | '\t' :: '"' :: quoted =>
    match Kind.ofName? (String.ofList name), Text.unquoteFrom 0 quoted with
    | some kind, some (value, ['\n']) => some (kind, String.ofList value)
    | _, _ => none
  | _ => none

/-- The kinds and texts in a listing, given by its bytes. -/
def readListing? (bytes : ByteArray) : Option (List (Kind × String)) := do
  let text ← String.fromUTF8? bytes
  (Text.splitLines text.toList).mapM readLine?

/-- Tokens of the given kinds and texts, of which the first begins at `position`. -/
def placeFrom (position : Nat) : List (Kind × String) → List Token
  | [] => []
  | (kind, value) :: pieces =>
    ⟨kind, value, ⟨position, position + value.utf8ByteSize⟩⟩ ::
      placeFrom (position + value.utf8ByteSize) pieces

/-- The text and its tokens, read off the listing of the tokens. -/
def recover? (bytes : ByteArray) : Option (String × List Token) :=
  (readListing? bytes).map fun pieces ↦ (String.join (pieces.map (·.2)), placeFrom 0 pieces)

theorem toList_rawLine (token : Token) : (rawLine token).toList =
    ("Token." ++ token.kind.dottedName).toList ++
      '\t' :: '"' :: token.value.toList.flatMap Text.escapeChar ++ ['"', '\n'] := by
  simp [rawLine, Text.quote]

/-- Names of kinds have neither tabs nor newlines. -/
theorem dottedName_clean (kind : Kind) :
    ∀ c ∈ ("Token." ++ kind.dottedName).toList, c ≠ '\t' ∧ c ≠ '\n' := by
  have hall : ("Token." ++ kind.dottedName).toList.all fun c ↦ c != '\t' && c != '\n' := by
    cases kind <;> decide
  intro c hc
  simpa using List.all_eq_true.1 hall c hc

theorem readLine?_rawLine (token : Token) :
    readLine? (rawLine token).toList = some (shown token) := by
  have hname : ∀ c ∈ ("Token." ++ token.kind.dottedName).toList, (c != '\t') = true := by
    intro c hc
    exact bne_iff_ne.2 (dottedName_clean token.kind c hc).1
  have htake : (rawLine token).toList.takeWhile (· != '\t') =
      ("Token." ++ token.kind.dottedName).toList := by
    rw [toList_rawLine, List.append_assoc, List.takeWhile_append_of_pos hname]
    simp
  have hquoted : Text.unquoteFrom 0 (token.value.toList.flatMap Text.escapeChar ++ ['"', '\n']) =
      some (token.value.toList, ['\n']) :=
    Text.unquoteFrom_escaped _ _
  unfold readLine?
  dsimp only
  rw [htake, toList_rawLine, List.append_assoc, List.drop_left]
  simp only [List.cons_append, hquoted, String.ofList_toList, Kind.ofName?_token_dottedName]
  rfl

/-- The only newline of a line is the one at its end. -/
theorem exists_rawLine_body (token : Token) :
    ∃ body, (rawLine token).toList = body ++ ['\n'] ∧ '\n' ∉ body := by
  refine ⟨("Token." ++ token.kind.dottedName).toList ++ '\t' :: (Text.quote token.value).toList,
    by simp [rawLine], ?_⟩
  simp only [List.mem_append, List.mem_cons, not_or]
  refine ⟨?_, by decide, Text.newline_not_mem_quote token.value⟩
  intro hmem
  exact (dottedName_clean token.kind _ hmem).2 rfl

theorem toList_raw (tokens : List Token) :
    (raw tokens).toList = tokens.flatMap fun token ↦ (rawLine token).toList := by
  rw [raw, String.toList_join, List.flatMap_map]

/-- A listing is cut into the lines of its tokens. -/
theorem splitLines_raw (tokens : List Token) :
    Text.splitLines (raw tokens).toList = tokens.map fun token ↦ (rawLine token).toList := by
  rw [toList_raw]
  exact Text.splitLines_flatMap exists_rawLine_body tokens

theorem count_newline_raw (tokens : List Token) :
    (raw tokens).toUTF8.data.toList.count 10 = tokens.length := by
  rw [Text.count_newline_toUTF8, toList_raw]
  exact Text.count_newline_lines exists_rawLine_body tokens

theorem readListing?_raw (tokens : List Token) :
    readListing? (raw tokens).toUTF8 = some (tokens.map shown) :=
  Text.bind_mapM_splitLines exists_rawLine_body readLine?_rawLine (toList_raw tokens)

theorem placeFrom_shown {position : Nat} {text : List Char} {tokens : List Token}
    (htiles : Tiles position text tokens) : placeFrom position (tokens.map shown) = tokens := by
  induction htiles with
  | nil => rfl
  | cons kind position _ _ ih =>
    simp only [List.map_cons, shown, Token.of, placeFrom, Text.utf8ByteSize_ofList]
    rw [ih]

/-- A listing has one line and one newline byte for each token, and from its bytes the kinds and
texts of the tokens are recovered. From the listing of the tokens of a text, the text and the tokens
with their places are recovered. -/
theorem raw_recovered :
    (∀ tokens, Text.splitLines (raw tokens).toList =
        (tokens.map fun token ↦ (rawLine token).toList) ∧
      (raw tokens).toUTF8.data.toList.count 10 = tokens.length ∧
      readListing? (raw tokens).toUTF8 = some (tokens.map shown)) ∧
    (∀ tokens others, raw tokens = raw others ↔ tokens.map shown = others.map shown) ∧
    ∀ (lexer : Lexer) text,
      recover? (raw (lexer.tokenize text)).toUTF8 = some (text, lexer.tokenize text) := by
  refine ⟨?_, ?_, ?_⟩
  · intro tokens
    exact ⟨splitLines_raw tokens, count_newline_raw tokens, readListing?_raw tokens⟩
  · intro tokens others
    constructor
    · intro hraw
      have hread := readListing?_raw tokens
      rw [hraw, readListing?_raw others] at hread
      exact (Option.some.inj hread).symm
    · intro hshown
      have hlines (tokens : List Token) : tokens.map rawLine = (tokens.map shown).map
          fun piece ↦ rawLine ⟨piece.1, piece.2, ⟨0, 0⟩⟩ := by
        rw [List.map_map]
        rfl
      rw [raw, raw, hlines tokens, hlines others, hshown]
  · intro lexer text
    have htiles := lexer.tokenize_tiles text
    have htext : String.join (((lexer.tokenize text).map shown).map (·.2)) = text := by
      rw [List.map_map]
      exact htiles.join_values
    rw [recover?, readListing?_raw, Option.map_some, htext, placeFrom_shown htiles]

end LexTable.Render
