import LexTable.Proofs.Lexer.Refinement

/-!
# Tokens tile the text

The tokens of a text cover it from its start to its end: each begins where the one before it
ended, none is empty, and each holds exactly the bytes of its span. A cursor gives them out one by
one and then nothing more.
-/

namespace LexTable

open Text (byteLength)

/-- The tokens are the text, cut between characters into pieces that are not empty. -/
structure Tiling (text : String) (tokens : List Token) : Prop where
  first : ∀ token ∈ tokens.head?, token.span.start = 0
  adjacent : tokens.IsChain fun token next ↦ next.span.start = token.span.stop
  last : ∀ token ∈ tokens.getLast?, token.span.stop = text.utf8ByteSize
  eq_nil_iff : tokens = [] ↔ text = ""
  start_lt_stop : ∀ token ∈ tokens, token.span.start < token.span.stop
  start_valid : ∀ token ∈ tokens, String.Pos.Raw.IsValid text ⟨token.span.start⟩
  stop_valid : ∀ token ∈ tokens, String.Pos.Raw.IsValid text ⟨token.span.stop⟩
  value_eq : ∀ token ∈ tokens,
    token.value.toByteArray = text.toByteArray.extract token.span.start token.span.stop

namespace Tiles

variable {position : Nat} {text : List Char} {tokens : List Token}

theorem head_start (htiles : Tiles position text tokens) :
    ∀ token ∈ tokens.head?, token.span.start = position := by
  intro token htoken
  cases htiles with
  | nil => cases htoken
  | cons =>
    cases htoken
    rfl

theorem adjacent (htiles : Tiles position text tokens) :
    tokens.IsChain fun token next ↦ next.span.start = token.span.stop := by
  induction htiles with
  | nil => exact .nil
  | cons kind position hvalue hrest ih => exact ih.cons hrest.head_start

theorem last_stop (htiles : Tiles position text tokens) :
    ∀ token ∈ tokens.getLast?, token.span.stop = position + byteLength text := by
  induction htiles with
  | nil => simp
  | @cons kind position value rest tokens hvalue hrest ih =>
    intro token htoken
    rw [Text.byteLength_append, ← Nat.add_assoc]
    cases hrest with
    | nil =>
      cases htoken
      rfl
    | cons =>
      rw [List.getLast?_cons_cons] at htoken
      exact ih token htoken

/-- Each token is a piece of the text, at its place. -/
theorem exists_split (htiles : Tiles position text tokens) {token : Token}
    (htoken : token ∈ tokens) :
    ∃ before value after, text = before ++ value ++ after ∧ value ≠ [] ∧
      token = Token.of token.kind (position + byteLength before) value := by
  induction htiles with
  | nil => cases htoken
  | @cons kind position value rest tokens hvalue hrest ih =>
    rcases List.mem_cons.1 htoken with rfl | hlater
    · exact ⟨[], value, rest, rfl, hvalue, rfl⟩
    · obtain ⟨before, piece, after, hsplit, hpiece, hof⟩ := ih hlater
      refine ⟨value ++ before, piece, after, ?_, hpiece, ?_⟩
      · rw [hsplit, List.append_assoc, List.append_assoc, List.append_assoc]
      · rw [Text.byteLength_append, ← Nat.add_assoc]
        exact hof

theorem flatMap_value (htiles : Tiles position text tokens) :
    tokens.flatMap (·.value.toList) = text := by
  induction htiles with
  | nil => rfl
  | cons kind position hvalue hrest ih =>
    rw [List.flatMap_cons, ih]
    exact congrArg (· ++ _) String.toList_ofList

theorem starts_increasing (htiles : Tiles position text tokens) :
    tokens.Pairwise fun token later ↦ token.span.start < later.span.start := by
  induction htiles with
  | nil => exact .nil
  | @cons kind position value rest tokens hvalue hrest ih =>
    apply List.Pairwise.cons _ ih
    intro later hlater
    obtain ⟨before, piece, after, -, -, hof⟩ := hrest.exists_split hlater
    have hpos := Text.byteLength_pos hvalue
    rw [hof]
    change position < position + byteLength value + byteLength before
    omega

/-- The span of a token, measured on the text before it and up to its end. -/
theorem exists_slices {source : String} (htiles : Tiles 0 source.toList tokens) {token : Token}
    (htoken : token ∈ tokens) :
    ∃ before after : String, source = before ++ token.value ++ after ∧ token.value ≠ "" ∧
      token.span = ⟨before.utf8ByteSize, (before ++ token.value).utf8ByteSize⟩ := by
  obtain ⟨before, value, after, hsplit, hvalue, hof⟩ := htiles.exists_split htoken
  have htext : token.value = String.ofList value := congrArg Token.value hof
  have hspan : token.span = ⟨byteLength before, byteLength before + byteLength value⟩ := by
    rw [hof, Nat.zero_add]
    rfl
  refine ⟨String.ofList before, String.ofList after, ?_, ?_, ?_⟩
  · rw [htext, ← String.ofList_append, ← String.ofList_append, ← hsplit, String.ofList_toList]
  · intro hempty
    rw [htext] at hempty
    exact hvalue (by simpa using hempty)
  · rw [hspan, htext, String.utf8ByteSize_append, Text.utf8ByteSize_ofList,
      Text.utf8ByteSize_ofList]

theorem tiling {source : String} (htiles : Tiles 0 source.toList tokens) :
    Tiling source tokens where
  first := htiles.head_start
  adjacent := htiles.adjacent
  last token htoken := by
    rw [htiles.last_stop token htoken, Nat.zero_add, Text.byteLength_toList]
  eq_nil_iff := by
    have hvalues := htiles.flatMap_value
    constructor
    · intro hnil
      rw [hnil] at hvalues
      exact String.toList_eq_nil_iff.1 hvalues.symm
    · intro hempty
      by_contra hne
      rw [hempty] at htiles
      exact absurd (htiles.byteLength_pos hne) (Nat.lt_irrefl 0)
  start_lt_stop token htoken := by
    obtain ⟨before, after, -, hvalue, hspan⟩ := htiles.exists_slices htoken
    have hpos := Nat.pos_of_ne_zero (mt String.utf8ByteSize_eq_zero_iff.1 hvalue)
    rw [hspan, String.utf8ByteSize_append]
    exact Nat.lt_add_of_pos_right hpos
  start_valid token htoken := by
    obtain ⟨before, after, hsource, -, hspan⟩ := htiles.exists_slices htoken
    rw [hspan, String.Pos.Raw.isValid_iff_exists_append]
    exact ⟨before, token.value ++ after, by rw [← String.append_assoc, hsource], rfl⟩
  stop_valid token htoken := by
    obtain ⟨before, after, hsource, -, hspan⟩ := htiles.exists_slices htoken
    rw [hspan, String.Pos.Raw.isValid_iff_exists_append]
    exact ⟨before ++ token.value, after, hsource, rfl⟩
  value_eq token htoken := by
    obtain ⟨before, after, hsource, -, hspan⟩ := htiles.exists_slices htoken
    have hbytes : source.toByteArray =
        before.toByteArray ++ (token.value.toByteArray ++ after.toByteArray) := by
      rw [hsource, String.toByteArray_append, String.toByteArray_append, ByteArray.append_assoc]
    calc
      _ = (token.value.toByteArray ++ after.toByteArray).extract 0 token.value.toByteArray.size :=
        (ByteArray.extract_append_eq_left rfl).symm
      _ = source.toByteArray.extract (before.toByteArray.size + 0)
          (before.toByteArray.size + token.value.toByteArray.size) := by
        rw [hbytes, ByteArray.extract_append_size_add]
      _ = _ := by
        rw [hspan, String.utf8ByteSize_append, String.size_toByteArray, String.size_toByteArray]
        rfl

end Tiles

/-- The cursor after the given number of pulls. -/
def Cursor.after (lexer : Lexer) : Nat → Cursor → Cursor
  | 0, cursor => cursor
  | count + 1, cursor => Cursor.after lexer count (cursor.pull lexer).2

theorem Cursor.Ahead.pull_after {lexer : Lexer} {cursor : Cursor} {readings : List Reading}
    (hahead : cursor.Ahead lexer readings) (count : Nat) :
    ((cursor.after lexer count).pull lexer).1 = (readings.map (·.token))[count]? := by
  induction count generalizing cursor readings with
  | zero =>
    unfold Cursor.after
    cases readings with
    | nil =>
      rw [hahead.pull_nil]
      rfl
    | cons reading readings =>
      obtain ⟨after, hpull, -, -⟩ := hahead.pull_cons
      rw [hpull]
      rfl
  | succ count ih =>
    unfold Cursor.after
    cases readings with
    | nil =>
      rw [hahead.pull_nil]
      exact ih hahead
    | cons reading readings =>
      obtain ⟨after, hpull, -, hafter⟩ := hahead.pull_cons
      rw [hpull]
      exact ih hafter

theorem Stretch.map_token_readings (scan : List Stretch) :
    (scan.flatMap Stretch.readings).map (·.token) = scan.flatMap (·.tokens) := by
  have hone (stretch : Stretch) : stretch.readings.map (·.token) = stretch.tokens := by
    unfold Stretch.readings
    rw [List.map_map]
    exact List.map_id _
  rw [List.map_flatMap]
  exact List.flatMap_congr fun stretch _ ↦ hone stretch

/-- The limit of a whole run is never what ends it. -/
theorem Scan.tokenize_eq {lexer : Lexer} {text : String} {scan : List Stretch}
    (hscan : Scan lexer ⟨lexer.initial, []⟩ [] text.toList scan) :
    lexer.tokenize text = scan.flatMap (·.tokens) := by
  have hlength : (scan.flatMap (·.tokens)).length ≤ text.length := by
    rw [← String.length_toList]
    exact hscan.tiles.length_le
  calc
    _ = ((lexer.trace text none).map (Cursor.reading lexer)).map (·.token) := by
      rw [List.map_map]
      rfl
    _ = ((scan.flatMap Stretch.readings).take text.length).map (·.token) :=
      congrArg _ ((Cursor.Ahead.start hscan).pulls text.length)
    _ = (scan.flatMap (·.tokens)).take text.length := by
      rw [List.map_take, Stretch.map_token_readings]
    _ = _ := List.take_of_length_le hlength

theorem Lexer.tokenize_tiles (lexer : Lexer) (text : String) :
    Tiles 0 text.toList (lexer.tokenize text) := by
  obtain ⟨scan, hscan⟩ := (Cursor.At.start lexer text).exists_scan
  rw [hscan.tokenize_eq]
  exact hscan.tiles

theorem Tiles.join_values {position : Nat} {text : String} {tokens : List Token}
    (htiles : Tiles position text.toList tokens) :
    String.join (tokens.map (·.value)) = text := by
  apply String.toList_injective
  rw [String.toList_join, List.flatMap_map]
  exact htiles.flatMap_value

/-- Pull number `count`, counted from 0, gives token `count` of the text, and nothing once these
have run out. -/
theorem tokenize_tiling (lexer : Lexer) (text : String) :
    Tiling text (lexer.tokenize text) ∧
      (∀ count, (((Cursor.start text).after lexer count).pull lexer).1 =
        (lexer.tokenize text)[count]?) ∧
      String.join ((lexer.tokenize text).map (·.value)) = text ∧
      ((lexer.tokenize text).Pairwise fun token later ↦ token.span.start < later.span.start) ∧
      (lexer.tokenize text).length ≤ text.length := by
  obtain ⟨scan, hscan⟩ := (Cursor.At.start lexer text).exists_scan
  have htiles : Tiles 0 text.toList (lexer.tokenize text) := by
    rw [hscan.tokenize_eq]
    exact hscan.tiles
  refine ⟨htiles.tiling, ?_, ?_, htiles.starts_increasing, ?_⟩
  · intro count
    rw [hscan.tokenize_eq, ← Stretch.map_token_readings]
    exact (Cursor.Ahead.start hscan).pull_after count
  · apply String.toList_injective
    rw [String.toList_join, List.flatMap_map]
    exact htiles.flatMap_value
  · rw [← String.length_toList]
    exact htiles.length_le

end LexTable
