import LexTable.Proofs.Glob.Spelling
import LexTable.Proofs.Regex.Matching

/-!
# Names that a file name pattern accepts

A file name pattern accepts the names that its pieces fit, and brackets stand in it for what they
list, as long as no two dashes come in a row in a bracket. Only a bracket without an end and a range
that begins behind its end are refused.
-/

namespace LexTable

theorem CharSet.contains_unionAll (sets : List CharSet) (c : Char) :
    (unionAll sets).contains c ↔ ∃ s ∈ sets, s.contains c := by
  induction sets with
  | nil => simp [unionAll, contains]
  | cons s sets ih =>
    cases sets with
    | nil => simp [unionAll]
    | cons t sets => simpa [unionAll, contains] using or_congr_right ih

namespace Glob

open Pattern

theorem contains_set (m : Member) (c : Char) : m.set.contains c ↔ m.Holds c := by
  cases m with
  | single d => simp [Member.set, CharSet.contains, Member.Holds]
  | range first last => simp [Member.set, CharSet.contains, Member.Holds]

theorem contains_bracketSet (negated : Bool) (members : List Member) (c : Char) :
    (bracketSet negated members).contains c ↔ ((∃ m ∈ members, m.Holds c) ↔ negated = false) := by
  have hlisted : (CharSet.unionAll (members.map Member.set)).contains c ↔
      ∃ m ∈ members, m.Holds c := by
    rw [CharSet.contains_unionAll]
    simp only [List.mem_map, exists_exists_and_eq_and, contains_set]
  cases negated with
  | false => simpa [bracketSet] using hlisted
  | true =>
    rw [bracketSet, if_pos rfl, CharSet.contains, ← hlisted]
    simp

theorem contains_lineChars (c : Char) : lineChars.contains c ↔ c ≠ '\n' := by
  simp [lineChars, CharSet.contains]

theorem covers_anyText (cs : List Char) :
    Piece.anyText.Covers cs ↔ ∀ c ∈ cs, lineChars.contains c := by
  simp only [contains_lineChars]
  constructor
  · rintro ⟨hcs⟩ c hc rfl
    exact hcs hc
  · intro hcs
    exact .anyText fun hnewline ↦ hcs _ hnewline rfl

/-- All other pieces stand for one character of a set. -/
theorem exists_chars_of_ne {piece : Piece} (hpiece : piece ≠ .anyText) :
    ∃ s, piece.regex = .chars s ∧ ∀ cs, piece.Covers cs ↔ ∃ c, cs = [c] ∧ s.contains c := by
  cases piece with
  | anyText => exact absurd rfl hpiece
  | anyChar =>
    refine ⟨lineChars, rfl, fun cs ↦ ⟨?_, ?_⟩⟩
    · rintro (_ | hc)
      exact ⟨_, rfl, (contains_lineChars _).2 hc⟩
    · rintro ⟨c, rfl, hc⟩
      exact .anyChar ((contains_lineChars c).1 hc)
  | char d =>
    refine ⟨.single d, rfl, fun cs ↦ ⟨?_, ?_⟩⟩
    · rintro ⟨⟩
      exact ⟨d, rfl, beq_self_eq_true d⟩
    · rintro ⟨c, rfl, hc⟩
      obtain rfl : c = d := beq_iff_eq.1 hc
      exact .char c
  | bracket negated body =>
    refine ⟨bracketSet negated (membersOf body), rfl, fun cs ↦ ⟨?_, ?_⟩⟩
    · rintro (_ | _ | _ | hc)
      exact ⟨_, rfl, (contains_bracketSet ..).2 hc⟩
    · rintro ⟨c, rfl, hc⟩
      exact .bracket ((contains_bracketSet ..).1 hc)

/-- The ways past a piece are past the texts that it stands for. -/
theorem exists_mem_ways_piece (piece : Piece) (way : Way) (p : List Char → Prop) :
    (∃ after ∈ piece.regex.ways way, p after.rest) ↔
      ∃ cs ds, way.rest = cs ++ ds ∧ piece.Covers cs ∧ p ds := by
  by_cases hpiece : piece = .anyText
  · subst hpiece
    simp only [Piece.regex, Regex.exists_mem_ways_star, covers_anyText]
  · obtain ⟨s, hregex, hcovers⟩ := exists_chars_of_ne hpiece
    rw [hregex, Regex.ways, Way.exists_mem_take]
    constructor
    · rintro ⟨c, cs, hrest, hc, hp⟩
      exact ⟨[c], cs, hrest, (hcovers _).2 ⟨c, rfl, hc⟩, hp⟩
    · rintro ⟨cs, ds, hrest, hcs, hp⟩
      obtain ⟨c, rfl, hc⟩ := (hcovers cs).1 hcs
      exact ⟨c, ds, hrest, hc, hp⟩

/-- There is a way through the pieces to the end of a text that they fit, and of no other text. -/
theorem exists_mem_ways_pieces (pieces : List Piece) (way : Way) :
    (∃ after, after ∈ (Regex.seqAll (pieces.map Piece.regex ++ [.look .textEnd])).ways way) ↔
      Fits pieces way.rest := by
  induction pieces generalizing way with
  | nil =>
    have hend (text : List Char) : Fits [] text ↔ text = [] := by
      constructor
      · rintro ⟨⟩
        rfl
      · rintro rfl
        exact .nil
    rw [hend, List.map_nil, List.nil_append, Regex.seqAll, Regex.ways]
    cases way.rest with
    | nil => simp [Look.holds]
    | cons c cs => simp [Look.holds]
  | cons piece pieces ih =>
    have hpiece := exists_mem_ways_piece piece way (Fits pieces)
    rw [List.map_cons, List.cons_append, Regex.ways_seqAll_cons]
    simp only [List.mem_flatMap]
    constructor
    · rintro ⟨after, middle, hmiddle, hafter⟩
      obtain ⟨cs, ds, hrest, hcs, hds⟩ := hpiece.1 ⟨middle, hmiddle, (ih middle).1 ⟨after, hafter⟩⟩
      rw [hrest]
      exact .cons hcs hds
    · intro hfits
      generalize htext : way.rest = text at hfits
      cases hfits with
      | cons hcs hds =>
        obtain ⟨middle, hmiddle, hmore⟩ := hpiece.2 ⟨_, _, htext, hcs, hds⟩
        obtain ⟨after, hafter⟩ := (ih middle).2 hmore
        exact ⟨after, middle, hmiddle, hafter⟩

theorem plain_wholeRegex (pieces : List Piece) : (wholeRegex pieces).Plain := by
  apply Regex.plain_seqAll
  intro r hr
  rcases List.mem_cons.1 hr with rfl | hr
  · exact ⟨rfl, rfl⟩
  rcases List.mem_append.1 hr with hr | hr
  · obtain ⟨piece, -, rfl⟩ := List.mem_map.1 hr
    cases piece <;> exact ⟨rfl, rfl⟩
  · obtain rfl := List.mem_singleton.1 hr
    exact ⟨rfl, rfl⟩

theorem accepts_iff (pattern : String) (pieces : List Piece) (name : String) :
    Compiled.accepts ⟨pattern, wholeRegex pieces⟩ name ↔ Fits pieces name.toList := by
  let slots : Slots := List.replicate (2 * (wholeRegex pieces).lastGroup) none
  have hways : (wholeRegex pieces).ways ⟨none, name.toList, 0, slots⟩ =
      (Regex.seqAll (pieces.map Piece.regex ++ [.look .textEnd])).ways
        ⟨none, name.toList, 0, slots⟩ := by
    rw [wholeRegex, Regex.ways_seqAll_cons]
    change List.flatMap _ [_] = _
    rw [List.flatMap_singleton]
  have hfits := exists_mem_ways_pieces pieces ⟨none, name.toList, 0, slots⟩
  rw [Compiled.accepts, Regex.match?_eq (plain_wholeRegex pieces).steady, Option.isSome_map, hways,
    List.isSome_head?, ← hfits]
  exact ⟨List.exists_mem_of_ne_nil _, fun ⟨after, hafter⟩ ↦ List.ne_nil_of_mem hafter⟩

/-- A bracket that is read has a first member. -/
theorem Reads.plain {glob : List Char} {pieces : List Piece} (hreads : Reads glob pieces)
    (hdashes : ∀ negated body, .bracket negated body ∈ pieces → DashesApart body) :
    ∀ piece ∈ pieces, piece.Plain := by
  induction hreads with
  | nil => simp
  | anyText hrest ih | anyChar hrest ih | char hc hrest ih =>
    refine List.forall_mem_cons.2 ⟨trivial, ih ?_⟩
    intro negated body hmem
    exact hdashes negated body (List.mem_cons_of_mem _ hmem)
  | bracket hfirst hmore hrest ih =>
    refine List.forall_mem_cons.2 ⟨⟨⟨_, _, rfl, fun _ ↦ hfirst⟩, ?_⟩, ih ?_⟩
    · exact hdashes _ _ List.mem_cons_self
    · intro negated body hmem
      exact hdashes negated body (List.mem_cons_of_mem _ hmem)
  | negated hsign hmore hrest ih =>
    refine List.forall_mem_cons.2 ⟨⟨⟨_, _, rfl, by simp⟩, ?_⟩, ih ?_⟩
    · exact hdashes _ _ List.mem_cons_self
    · intro negated body hmem
      exact hdashes negated body (List.mem_cons_of_mem _ hmem)

theorem Reads.pattern?_eq {glob : String} {pieces : List Piece}
    (hreads : Reads glob.toList pieces) : pattern? glob =
      some (String.ofList ('^' :: pieces.flatMap Piece.pattern ++ ['$'])) := by
  rw [pattern?, hreads.spellOut_eq, Option.map_some]

theorem compile_of_unterminated {glob : String} (hopen : Unterminated glob.toList) :
    ∃ error, compile glob = .error error := by
  rw [compile, pattern?, hopen.spellOut_eq]
  exact ⟨_, rfl⟩

theorem compile_of_reversed {glob : String} {pieces : List Piece}
    (hreads : Reads glob.toList pieces) (hplain : ∀ piece ∈ pieces, piece.Plain)
    (hreversed : ∃ piece ∈ pieces, piece.Reversed) : ∃ error, compile glob = .error error := by
  obtain ⟨error, herror⟩ := parse_reversed hplain hreversed
  rw [compile, hreads.pattern?_eq]
  dsimp only
  rw [String.toList_ofList, herror]
  exact ⟨_, rfl⟩

theorem compile_of_reads {glob : String} {pieces : List Piece} (hreads : Reads glob.toList pieces)
    (hplain : ∀ piece ∈ pieces, piece.Plain) (hranges : ∀ piece ∈ pieces, ¬ piece.Reversed) :
    ∃ pattern, compile glob = .ok ⟨pattern, wholeRegex pieces⟩ := by
  rw [compile, hreads.pattern?_eq]
  dsimp only
  rw [String.toList_ofList, parse_pieces hplain hranges]
  exact ⟨_, rfl⟩

/-- A pattern is refused that has no end of a bracket, or a range that begins behind its end. All
other patterns accept the names that their pieces fit. -/
theorem compile_brackets (glob : String)
    (hdashes : ∀ pieces, Reads glob.toList pieces → ∀ negated body,
      .bracket negated body ∈ pieces → DashesApart body) :
    ((∃ error, compile glob = .error error) ↔ Unterminated glob.toList ∨
      ∃ pieces, Reads glob.toList pieces ∧ ∃ piece ∈ pieces, piece.Reversed) ∧
    ∀ compiled pieces, compile glob = .ok compiled → Reads glob.toList pieces →
      ∀ name, compiled.accepts name ↔ Fits pieces name.toList := by
  have hranges {pieces : List Piece} (hreads : Reads glob.toList pieces)
      (hnot : ¬ ∃ error, compile glob = .error error) : ∀ piece ∈ pieces, ¬ piece.Reversed := by
    intro piece hpiece hreversed
    exact hnot (compile_of_reversed hreads (hreads.plain (hdashes pieces hreads))
      ⟨piece, hpiece, hreversed⟩)
  refine ⟨⟨?_, ?_⟩, ?_⟩
  · rintro ⟨error, herror⟩
    rcases reads_or_unterminated glob.toList with ⟨pieces, hreads⟩ | hopen
    · refine .inr ⟨pieces, hreads, ?_⟩
      by_contra hnone
      obtain ⟨pattern, hok⟩ := compile_of_reads hreads (hreads.plain (hdashes pieces hreads))
        fun piece hpiece hreversed ↦ hnone ⟨piece, hpiece, hreversed⟩
      rw [herror] at hok
      cases hok
    · exact .inl hopen
  · rintro (hopen | ⟨pieces, hreads, hreversed⟩)
    · exact compile_of_unterminated hopen
    · exact compile_of_reversed hreads (hreads.plain (hdashes pieces hreads)) hreversed
  · intro compiled pieces hok hreads name
    have hnot : ¬ ∃ error, compile glob = .error error := by
      rintro ⟨error, herror⟩
      rw [hok] at herror
      cases herror
    obtain ⟨pattern, hcompile⟩ := compile_of_reads hreads
      (hreads.plain (hdashes pieces hreads)) (hranges hreads hnot)
    obtain rfl := Except.ok.inj (hok.symm.trans hcompile)
    exact accepts_iff pattern pieces name

/-- A closing bracket that is the first member may begin a range. -/
theorem compile_brackets_range : ∃ compiled, compile "[]-a]" = .ok compiled ∧
    Reads "[]-a]".toList [.bracket false "]-a".toList] ∧
    (compiled.accepts "^" ↔ Fits [.bracket false "]-a".toList] "^".toList) ∧
    compiled.accepts "^" := by
  have hreads : Reads "[]-a]".toList [.bracket false "]-a".toList] :=
    @Reads.bracket ']' "-a".toList [] [] (by decide) (by decide) .nil
  have hdashes : ∀ pieces, Reads "[]-a]".toList pieces → ∀ negated body,
      .bracket negated body ∈ pieces → DashesApart body := by
    intro pieces hother negated body hmem
    obtain rfl := hother.unique hreads
    obtain ⟨rfl, rfl⟩ : negated = false ∧ body = "]-a".toList := by simpa using hmem
    simp [DashesApart]
  let regex : Regex := .seq (.look .textStart) (.seq (.chars (.range ']' 'a')) (.look .textEnd))
  have hcompile : compile "[]-a]" = .ok ⟨"^[\\]-a]$", regex⟩ := rfl
  exact ⟨_, hcompile, hreads, (compile_brackets _ hdashes).2 _ _ hcompile hreads "^",
    by decide +kernel⟩

/-- Two dashes between other characters take one set from another, where a shell sees a range up to
the dash. -/
theorem comma_not_accepted : ∃ compiled, compile "[+--]" = .ok compiled ∧
    Reads "[+--]".toList [.bracket false "+--".toList] ∧
    Fits [.bracket false "+--".toList] ",".toList ∧ compiled.accepts "," = false := by
  let set : CharSet := .diff (.single '+') .none
  let regex : Regex := .seq (.look .textStart) (.seq (.chars set) (.look .textEnd))
  have hcompile : compile "[+--]" = .ok ⟨"^[+--]$", regex⟩ := rfl
  have hcomma : ∃ m ∈ membersOf "+--".toList, m.Holds ',' :=
    ⟨.range '+' '-', List.mem_cons_self, by decide, by decide⟩
  have hcovers : Piece.Covers (.bracket false "+--".toList) [','] :=
    .bracket (by simpa only [iff_true] using hcomma)
  have hfits : Fits [.bracket false "+--".toList] ([','] ++ []) := .cons hcovers .nil
  exact ⟨_, hcompile, @Reads.bracket '+' "--".toList [] [] (by decide) (by decide) .nil, hfits,
    by decide +kernel⟩

end Glob

end LexTable
