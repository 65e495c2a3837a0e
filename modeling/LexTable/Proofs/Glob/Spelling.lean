import LexTable.Proofs.Glob.Classes

/-!
# File name patterns as regular expressions

What a file name pattern is spelled out as is read piece by piece, and becomes the expressions of
the pieces between the two ends of a name. A range that begins behind its end makes it unreadable.
-/

namespace LexTable

namespace Glob

open Pattern

/-- The symbols of the pattern that a piece is spelled out as. -/
def Piece.symbols : Piece → List Symbol
  | anyText => [.dot, .repetition 0 none true]
  | anyChar => [.dot]
  | char c => [.literal c]
  | bracket negated body =>
    .openClass negated (dashes body) ::
      ((membersOf (behindDashes body)).map (fun m ↦ .member m.set) ++ [.closeClass])

/-- A bracket has a first member, which is not its sign, and no two dashes in a row. -/
def Piece.Plain : Piece → Prop
  | bracket negated body =>
    (∃ first more, body = first :: more ∧ (negated = false → first ∉ signs)) ∧ DashesApart body
  | _ => True

/-- Some range of the piece begins behind its end. -/
def Piece.Reversed : Piece → Prop
  | bracket _ body => ∃ m ∈ membersOf body, m.Reversed
  | _ => False

section pieces

variable {rest : List Char} {symbols : List Symbol}

theorem head?_pattern (piece : Piece) (rest : List Char) :
    (piece.pattern ++ rest).head? ≠ some '?' := by
  cases piece with
  | anyText => simp [Piece.pattern]
  | anyChar => simp [Piece.pattern]
  | bracket negated body => simp [Piece.pattern]
  | char c =>
    rw [Piece.pattern, WordList.literal, List.flatMap_singleton]
    split
    · simp
    · next hc =>
      intro hhead
      obtain rfl : c = '?' := Option.some.inj hhead
      exact hc (by decide)

theorem head?_patterns (pieces : List Piece) (hrest : rest.head? ≠ some '?') :
    (pieces.flatMap Piece.pattern ++ rest).head? ≠ some '?' := by
  cases pieces with
  | nil => exact hrest
  | cons piece pieces =>
    rw [List.flatMap_cons, List.append_assoc]
    exact head?_pattern piece _

theorem nextPlain_star (hrest : rest.head? ≠ some '?') :
    nextPlain '*' rest = .ok (.repetition 0 none true, 1) := by
  have hgreedy : repetition 0 none 1 ('*' :: rest) = (.repetition 0 none true, 1) := by
    unfold repetition
    rw [List.drop_succ_cons, List.drop_zero]
    split
    · exact absurd rfl hrest
    · rfl
  change Except.ok (repetition 0 none 1 ('*' :: rest)) = _
  rw [hgreedy]

/-- The pattern of a bracket, with the dashes at its start apart. -/
theorem pattern_bracket (negated : Bool) (body rest : List Char) :
    (Piece.bracket negated body).pattern ++ rest =
      '[' :: (classSign negated ++ dashes body) ++
        ((behindDashes body).flatMap member ++ ']' :: rest) := by
  have hsign : (if negated then ['^'] else []) = classSign negated := rfl
  rw [Piece.pattern, flatMap_member, hsign]
  simp

theorem nextPlain_bracket {negated : Bool} {body : List Char}
    (hplain : (Piece.bracket negated body).Plain) (rest : List Char) :
    nextPlain '[' ((classSign negated ++ dashes body) ++
        ((behindDashes body).flatMap member ++ ']' :: rest)) =
      .ok (.openClass negated (dashes body), (classSign negated ++ dashes body).length + 1) := by
  obtain ⟨⟨first, more, rfl, hfirst⟩, -⟩ := hplain
  have hopen := openClass_eq hfirst more rest
  rw [flatMap_member, List.append_assoc, ← List.append_assoc] at hopen
  change Except.ok (openClass _) = _
  rw [hopen]

theorem Piece.Plain.behindDashes {negated : Bool} {body : List Char}
    (hplain : (Piece.bracket negated body).Plain) : DashesApart (behindDashes body) :=
  hplain.2.suffix (List.dropWhile_suffix _)

theorem scans_piece {piece : Piece} (hplain : piece.Plain) (hranges : ¬ piece.Reversed)
    (hrest : Scans rest symbols) (hmark : rest.head? ≠ some '?') :
    Scans (piece.pattern ++ rest) (piece.symbols ++ symbols) := by
  cases piece with
  | anyText => exact .cons [] rfl rfl (.cons [] (nextPlain_star hmark) rfl hrest)
  | anyChar => exact .cons [] rfl rfl hrest
  | char c => exact Scans.literal [c] hrest
  | bracket negated body =>
    have hinside : Inside ((behindDashes body).flatMap member ++ ']' :: rest)
        ((membersOf (behindDashes body)).map (fun m ↦ .member m.set) ++
          .closeClass :: symbols) := by
      apply inside_body hplain.behindDashes _ hrest
      intro m hm hreversed
      refine hranges ⟨m, ?_, hreversed⟩
      rw [membersOf_eq hplain.2]
      exact List.mem_append_right _ hm
    intro offset
    have hnext : nextAt offset 0 '[' _ = _ := nextPlain_bracket hplain rest
    rw [pattern_bracket, scanFrom_cons hnext]
    change (scanFrom _ 1 0 _).map _ = _
    rw [hinside]
    simp [Piece.symbols, Except.map]

/-- An error in a piece, or in what follows it, is an error of the whole. -/
theorem fails_piece {piece : Piece} (hplain : piece.Plain)
    (hfails : piece.Reversed ∨ Fails 0 rest) (hmark : rest.head? ≠ some '?') :
    Fails 0 (piece.pattern ++ rest) := by
  cases piece with
  | anyText =>
    have hrest := hfails.resolve_left id
    exact .cons [] .dot (fun _ ↦ rfl)
      (.cons [] (.repetition 0 none true) (fun _ ↦ nextPlain_star hmark) hrest)
  | anyChar =>
    exact .cons [] .dot (fun _ ↦ rfl) (hfails.resolve_left id)
  | char c =>
    have hrest := hfails.resolve_left id
    rw [Piece.pattern, WordList.literal, List.flatMap_singleton]
    split
    · next hc =>
      exact .cons [c] (.literal c) (fun _ ↦ nextPlain_escaped hc rest) hrest
    · next hc =>
      exact .cons [] (.literal c)
        (fun _ ↦ nextPlain_char (by simpa using hc) rest) hrest
  | bracket negated body =>
    rw [pattern_bracket]
    refine .cons _ (.openClass negated (dashes body))
      (fun _ ↦ nextPlain_bracket hplain rest) (fails_body hplain.behindDashes (hfails.imp_left ?_))
    rintro ⟨m, hm, hreversed⟩
    rw [membersOf_eq hplain.2] at hm
    rcases List.mem_append.1 hm with hlead | hbehind
    · obtain ⟨c, -, rfl⟩ := List.mem_map.1 hlead
      exact absurd hreversed id
    · exact ⟨m, hbehind, hreversed⟩

theorem scans_pieces {pieces : List Piece} (hplain : ∀ piece ∈ pieces, piece.Plain)
    (hranges : ∀ piece ∈ pieces, ¬ piece.Reversed) (hrest : Scans rest symbols)
    (hmark : rest.head? ≠ some '?') :
    Scans (pieces.flatMap Piece.pattern ++ rest) (pieces.flatMap Piece.symbols ++ symbols) := by
  induction pieces with
  | nil => exact hrest
  | cons piece pieces ih =>
    rw [List.forall_mem_cons] at hplain hranges
    rw [List.flatMap_cons, List.flatMap_cons, List.append_assoc, List.append_assoc]
    exact scans_piece hplain.1 hranges.1 (ih hplain.2 hranges.2) (head?_patterns pieces hmark)

theorem fails_pieces {pieces : List Piece} (hplain : ∀ piece ∈ pieces, piece.Plain)
    (hreversed : ∃ piece ∈ pieces, piece.Reversed) (hmark : rest.head? ≠ some '?') :
    Fails 0 (pieces.flatMap Piece.pattern ++ rest) := by
  induction pieces with
  | nil =>
    obtain ⟨piece, hpiece, -⟩ := hreversed
    cases hpiece
  | cons piece pieces ih =>
    rw [List.forall_mem_cons] at hplain
    rw [List.flatMap_cons, List.append_assoc]
    apply fails_piece hplain.1 _ (head?_patterns pieces hmark)
    obtain ⟨other, hother, hreversed⟩ := hreversed
    rcases List.mem_cons.1 hother with rfl | hlater
    · exact .inl hreversed
    · exact .inr (ih hplain.2 ⟨other, hlater, hreversed⟩)

end pieces

/-- All characters but the end of a line. -/
def lineChars : CharSet :=
  (CharSet.single '\n').compl

/-- The characters that a bracket with these members stands for. -/
def bracketSet (negated : Bool) (members : List Member) : CharSet :=
  let listed := CharSet.unionAll (members.map Member.set)
  if negated then listed.compl else listed

def Piece.regex : Piece → Regex
  | anyText => .star true (.chars lineChars)
  | anyChar => .chars lineChars
  | char c => .chars (.single c)
  | bracket negated body => .chars (bracketSet negated (membersOf body))

/-- The members of a class are gathered until it is closed. -/
theorem foldlM_read_members (state : State) (frame : ClassFrame)
    (hclasses : state.classes = [frame]) (sets : List CharSet) :
    (sets.map Symbol.member).foldlM State.read state =
      .ok { state with classes := [{ frame with members := sets.reverse ++ frame.members }] } := by
  induction sets generalizing state frame with
  | nil =>
    rw [List.reverse_nil, List.nil_append, ← hclasses]
    rfl
  | cons s sets ih =>
    have hread : state.read (.member s) = .ok { state with classes := [frame.add s] } := by
      change Except.ok (state.member s) = _
      rw [State.member, hclasses]
    rw [List.map_cons, List.foldlM_cons, hread, List.reverse_cons, List.append_assoc]
    exact ih { state with classes := [frame.add s] } (frame.add s) rfl

theorem reverse_dashes (body : List Char) : (dashes body).reverse = dashes body := by
  have hall : ∀ c ∈ dashes body, c = '-' := by
    intro c hc
    simpa using List.mem_takeWhile_imp hc
  rw [List.eq_replicate_of_mem hall, List.reverse_replicate]

theorem toSet_eq {body : List Char} (hdashes : DashesApart body) (negated : Bool) :
    ClassFrame.toSet ⟨negated, none, ((membersOf (behindDashes body)).map Member.set).reverse ++
      (dashes body).map .single⟩ = bracketSet negated (membersOf body) := by
  have hsets : (((membersOf (behindDashes body)).map Member.set).reverse ++
      (dashes body).map CharSet.single).reverse = (membersOf body).map Member.set := by
    rw [List.reverse_append, List.reverse_reverse, ← List.map_reverse, reverse_dashes,
      membersOf_eq hdashes, List.map_append, List.map_map]
    rfl
  change (if negated then (CharSet.unionAll (List.reverse _)).compl
    else CharSet.unionAll (List.reverse _)) = _
  rw [hsets]
  rfl

/-- A piece is one more item of what is being read. -/
theorem foldlM_read_piece (state : State) (hflags : state.flags = {})
    (hclasses : state.classes = []) {piece : Piece} (hplain : piece.Plain) :
    piece.symbols.foldlM State.read state = .ok (state.add piece.regex) := by
  obtain ⟨flags, groups, names, frames, classes, here⟩ := state
  subst hflags hclasses
  cases piece with
  | anyText | anyChar | char c => rfl
  | bracket negated body =>
    let frame : ClassFrame := ⟨negated, none, (dashes body).map .single⟩
    -- the dashes are members from the start, in front of which the others are put
    have hmembers := foldlM_read_members ⟨{}, groups, names, frames, [frame], here⟩ frame rfl
      ((membersOf (behindDashes body)).map Member.set)
    rw [List.map_map] at hmembers
    rw [Piece.symbols, List.foldlM_cons]
    change List.foldlM State.read ⟨{}, groups, names, frames, [frame], here⟩ (_ ++ _) = _
    rw [List.foldlM_append]
    change (List.foldlM State.read _ (List.map (Symbol.member ∘ Member.set) _) >>= _) = _
    rw [hmembers, Piece.regex, ← toSet_eq hplain.2]
    rfl

theorem foldlM_read_pieces (state : State) (hflags : state.flags = {})
    (hclasses : state.classes = []) {pieces : List Piece} (hplain : ∀ piece ∈ pieces, piece.Plain) :
    (pieces.flatMap Piece.symbols).foldlM State.read state =
      .ok { state with here := state.here.addAll (pieces.map Piece.regex) } := by
  induction pieces generalizing state with
  | nil => rfl
  | cons piece pieces ih =>
    rw [List.forall_mem_cons] at hplain
    rw [List.flatMap_cons, List.foldlM_append, foldlM_read_piece state hflags hclasses hplain.1]
    exact ih (state.add piece.regex) hflags hclasses hplain.2

/-- The expression for the names that fit some pieces. -/
def wholeRegex (pieces : List Piece) : Regex :=
  .seqAll (.look .textStart :: (pieces.map Piece.regex ++ [.look .textEnd]))

theorem scans_dollar : Scans ['$'] [.dollar] :=
  Scans.cons [] rfl rfl .nil

theorem parse_pieces {pieces : List Piece} (hplain : ∀ piece ∈ pieces, piece.Plain)
    (hranges : ∀ piece ∈ pieces, ¬ piece.Reversed) :
    Pattern.parse {} ('^' :: pieces.flatMap Piece.pattern ++ ['$']) = .ok (wholeRegex pieces) := by
  have hscans : Scans ('^' :: (pieces.flatMap Piece.pattern ++ ['$']))
      (.caret :: (pieces.flatMap Piece.symbols ++ [.dollar])) :=
    .cons [] rfl rfl (scans_pieces hplain hranges scans_dollar (by simp))
  have hread := foldlM_read_pieces (State.add { flags := {} } (.look .textStart)) rfl rfl hplain
  rw [List.cons_append, Pattern.parse, hscans.scan_eq]
  change (do (← List.foldlM State.read (State.add { flags := {} } (.look .textStart))
    (pieces.flatMap Piece.symbols ++ [Symbol.dollar])).finish) = _
  rw [List.foldlM_append, hread]
  have hlast (b : Branches) (rs : List Regex) (r : Regex) :
      (b.addAll rs).add r = b.addAll (rs ++ [r]) := by
    rw [Branches.addAll, Branches.addAll, List.foldl_append]
    rfl
  change Except.ok (Branches.regex (((({} : Branches).add (.look .textStart)).addAll
    (pieces.map Piece.regex)).add (.look .textEnd))) = _
  rw [hlast]
  change Except.ok (Branches.regex (Branches.addAll {}
    (.look .textStart :: (pieces.map Piece.regex ++ [.look .textEnd])))) = _
  rw [Branches.regex_eq, Branches.finished_addAll, Branches.branch_eq, Branches.items_addAll]
  rfl

theorem parse_reversed {pieces : List Piece} (hplain : ∀ piece ∈ pieces, piece.Plain)
    (hreversed : ∃ piece ∈ pieces, piece.Reversed) :
    ∃ error, Pattern.parse {} ('^' :: pieces.flatMap Piece.pattern ++ ['$']) = .error error := by
  have hfails : Fails 0 ('^' :: (pieces.flatMap Piece.pattern ++ ['$'])) :=
    .cons [] .caret (fun _ ↦ rfl) (fails_pieces hplain hreversed (by simp))
  obtain ⟨error, herror⟩ := hfails 0
  refine ⟨error, ?_⟩
  rw [List.cons_append, Pattern.parse, scan, herror]
  rfl

end Glob

end LexTable
