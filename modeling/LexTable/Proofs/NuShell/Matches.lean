import LexTable.Proofs.Lexer.Scan
import LexTable.Proofs.NuShell.Rules
import LexTable.Proofs.Regex.Matching
import Mathlib.Data.List.TakeWhile

/-!
# The tokens of one NuShell match

A match is one token, except for a definition: the keyword `def`, white space and a name, of which
none is empty.
-/

namespace LexTable

open Text (byteLength)

theorem Token.cut_cons (position : Nat) (kind : Kind) (value rest : List Char)
    (pieces : List (Kind × Nat)) :
    Token.cut position (value ++ rest) ((kind, value.length) :: pieces) =
      Token.of kind position value :: Token.cut (position + byteLength value) rest pieces := by
  simp [Token.cut, Token.of]

theorem Token.cut_single (position : Nat) (kind : Kind) (value : List Char) :
    Token.cut position value [(kind, value.length)] = [Token.of kind position value] := by
  simp [Token.cut, Token.of]

namespace NuShell

/-- A match of a definition that begins with `def`, then the given white space and name. -/
def definitionMatch (spaces name : List Char) : Match :=
  let afterSpaces := 3 + spaces.length
  let afterName := afterSpaces + name.length
  ⟨afterName, [some 0, some 3, some 3, some afterSpaces, some afterSpaces, some afterName]⟩

/-- The way past `def`, white space and a name, each of them marked as a group. -/
def definitionWay (way : Way) (spaces letters : Nat) : Way :=
  let keyword := ((way.mark 0).skip 3).mark 1
  let space := ((keyword.mark 2).skip spaces).mark 3
  ((space.mark 4).skip letters).mark 5

/-- White space and the name may end before the next character that is of another kind. -/
theorem exists_of_mem_ways_definition {way after : Way}
    (hafter : after ∈ definitionRegex.ways way) : ∃ text, way.rest = "def".toList ++ text ∧
      ∃ spaces < (text.takeWhile spaceSet.contains).length,
      ∃ letters < ((text.drop (spaces + 1)).takeWhile wordSet.contains).length,
        after = definitionWay way (spaces + 1) (letters + 1) := by
  rw [definitionRegex, Regex.ways, List.mem_flatMap] at hafter
  obtain ⟨first, hfirst, hafter⟩ := hafter
  rw [Regex.ways, List.mem_flatMap] at hafter
  obtain ⟨second, hsecond, hthird⟩ := hafter
  rw [Regex.mem_ways_group_run] at hsecond hthird
  rw [Regex.ways, Regex.ways_lone] at hfirst
  split at hfirst
  · next hdef =>
    obtain rfl := List.mem_singleton.1 hfirst
    obtain ⟨spaces, hspaces, rfl⟩ := hsecond
    obtain ⟨letters, hletters, rfl⟩ := hthird
    obtain ⟨text, htext⟩ := hdef.2.1
    rw [Way.mark_rest] at htext
    simp only [Way.mark_rest, Way.skip_rest, ← htext, List.drop_left] at hspaces hletters
    exact ⟨text, htext.symm, spaces, hspaces, letters, hletters, rfl⟩
  · cases hfirst

theorem definition_match {before : Option Char} {text : List Char} {m : Match}
    (hmatch : definitionRegex.match? before text = some m) :
    ∃ spaces name rest, text = "def".toList ++ spaces ++ name ++ rest ∧
      (spaces ≠ [] ∧ ∀ c ∈ spaces, spaceSet.contains c) ∧
      (name ≠ [] ∧ ∀ c ∈ name, wordSet.contains c) ∧ m = definitionMatch spaces name := by
  rw [Regex.match?_eq (by decide), Option.map_eq_some_iff] at hmatch
  obtain ⟨way, hhead, rfl⟩ := hmatch
  obtain ⟨after, rfl, spaces, hspaces, letters, hletters, rfl⟩ :=
    exists_of_mem_ways_definition (List.mem_of_mem_head? hhead)
  have hspacesLength : (after.take (spaces + 1)).length = spaces + 1 :=
    List.length_take_of_le (Nat.le_trans hspaces (List.takeWhile_prefix _).length_le)
  have hnameLength : ((after.drop (spaces + 1)).take (letters + 1)).length = letters + 1 :=
    List.length_take_of_le (Nat.le_trans hletters (List.takeWhile_prefix _).length_le)
  refine ⟨after.take (spaces + 1), (after.drop (spaces + 1)).take (letters + 1),
    (after.drop (spaces + 1)).drop (letters + 1), ?_, ⟨?_, ?_⟩, ⟨?_, ?_⟩, ?_⟩
  · simp only [List.append_assoc, List.take_append_drop]
  · exact List.ne_nil_of_length_eq_add_one hspacesLength
  · intro c hc
    exact CharSet.contains_of_mem_take hspaces hc
  · exact List.ne_nil_of_length_eq_add_one hnameLength
  · intro c hc
    exact CharSet.contains_of_mem_take hletters hc
  · have hgroups : definitionRegex.lastGroup = 3 := rfl
    simp [definitionMatch, hspacesLength, hnameLength, definitionWay, Way.mark, Way.skip, hgroups,
      List.replicate_succ]

theorem pieces_definition {spaces name : List Char} (hspaces : spaces ≠ []) (hname : name ≠ []) :
    definitionRule.action.pieces (definitionMatch spaces name) =
      [(.keyword, 3), (.whitespace, spaces.length), (.nameFunction, name.length)] := by
  have hspacesPos := List.length_pos_iff.2 hspaces
  have hnamePos := List.length_pos_iff.2 hname
  simp [definitionRule, Action.pieces, definitionMatch, Match.group?, Action.divide, hspacesPos,
    hnamePos]

/-- The initial stack, which is never left. -/
def root : Stack :=
  ⟨"root", []⟩

/-- What one step of the lexer makes of the next characters. -/
inductive Makes (position : Nat) : List Char → List Token → Prop
  | one (kind : Kind) (value : List Char) : Makes position value [Token.of kind position value]
  | definition {spaces name : List Char} (hspaces : spaces ≠ []) (hname : name ≠ []) :
      Makes position ("def".toList ++ spaces ++ name)
        [Token.of .keyword position "def".toList, Token.of .whitespace (position + 3) spaces,
          Token.of .nameFunction (position + 3 + byteLength spaces) name]

theorem eq_of_mem_readyRules {rule : Lexer.Rule} (hrule : rule ∈ readyRules) :
    rule = definitionRule ∨ ∃ regex kind, rule = tokenRule regex kind := by
  revert hrule rule
  simp [readyRules, tokenRule]

theorem cut_token {m : Match} {rest : List Char} (hlength : m.length ≤ rest.length) (position : Nat)
    (regex : Regex) (kind : Kind) :
    Token.cut position (rest.take m.length) ((tokenRule regex kind).action.pieces m) =
      [Token.of kind position (rest.take m.length)] := by
  have hcut := Token.cut_single position kind (rest.take m.length)
  rwa [List.length_take_of_le hlength] at hcut

theorem cut_definition {position : Nat} {spaces name : List Char} (hspaces : spaces ≠ [])
    (hname : name ≠ []) :
    Token.cut position ("def".toList ++ spaces ++ name)
        (definitionRule.action.pieces (definitionMatch spaces name)) =
      [Token.of .keyword position "def".toList, Token.of .whitespace (position + 3) spaces,
        Token.of .nameFunction (position + 3 + byteLength spaces) name] := by
  rw [pieces_definition hspaces hname, List.append_assoc]
  calc
    _ = Token.of .keyword position "def".toList :: Token.cut (position + 3) (spaces ++ name)
        [(.whitespace, spaces.length), (.nameFunction, name.length)] :=
      Token.cut_cons position .keyword "def".toList _ _
    _ = _ := by rw [Token.cut_cons, Token.cut_single]

/-- A match of a definition takes the definition off the text. -/
theorem take_definition (spaces name rest : List Char) :
    ("def".toList ++ spaces ++ name ++ rest).take (definitionMatch spaces name).length =
      "def".toList ++ spaces ++ name := by
  have hall : (definitionMatch spaces name).length =
      ("def".toList ++ spaces ++ name).length := by
    rw [List.length_append, List.length_append]
    rfl
  rw [hall, List.take_left]

/-- A step leaves the lexer in its only state. -/
theorem consumes_makes {done rest : List Char} {length : Nat} {stretch : Stretch}
    (hstep : Consumes ready root done rest length stretch) :
    stretch.stack = root ∧ Makes (byteLength done) (rest.take length) stretch.tokens := by
  cases hstep with
  | @matched rule m happlies =>
    have hlength := happlies.fits.length_le
    rcases eq_of_mem_readyRules (mem_readyRules happlies.mem) with rfl | ⟨regex, kind, rfl⟩
    · obtain ⟨spaces, name, after, rfl, hspaces, hname, rfl⟩ :=
        definition_match happlies.consumes.1
      refine ⟨rfl, ?_⟩
      rw [take_definition, cut_definition hspaces.1 hname.1]
      exact .definition hspaces.1 hname.1
    · refine ⟨rfl, ?_⟩
      rw [cut_token hlength]
      exact .one kind _
  | newline hnone hhead =>
    obtain ⟨after, rfl⟩ := List.head?_eq_some_iff.1 hhead
    exact ⟨rfl, .one .whitespace ['\n']⟩
  | @other c hnone hhead hc =>
    obtain ⟨after, rfl⟩ := List.head?_eq_some_iff.1 hhead
    exact ⟨rfl, .one .error [c]⟩

end NuShell

end LexTable
