import LexTable.Lexer.Cursor
import LexTable.Proofs.Pattern.Words
import LexTable.Proofs.Regex.Matching
import LexTable.Proofs.Table.Acceptance

/-!
# The longest word is taken

The rule for a list of words matches where one of the words stands in the text, letter by letter,
and takes the longest of those that do. With word boundaries around the words this goes for those
that stand alone: a longer word that goes on into another one does not hide a shorter word. Only
which words are in the list counts.
-/

namespace LexTable

namespace Regex

theorem ways_altAll {rs : List Regex} (hrs : rs ≠ []) (way : Way) :
    (altAll rs).ways way = rs.flatMap (·.ways way) := by
  induction rs with
  | nil => exact absurd rfl hrs
  | cons r rs ih =>
    cases rs with
    | nil => rw [List.flatMap_singleton, altAll]
    | cons s rs =>
      change r.ways way ++ (altAll (s :: rs)).ways way = _
      rw [ih (List.cons_ne_nil s rs)]
      rfl

end Regex

theorem head?_flatMap_ite {α β : Type} (p : α → Prop) [DecidablePred p] (f : α → β) (xs : List α) :
    (xs.flatMap fun x ↦ if p x then [f x] else []).head? = (xs.find? p).map f := by
  induction xs with
  | nil => rfl
  | cons x xs ih => by_cases hx : p x <;> simp [hx, ih]

namespace WordList

/-- What stands around the words of a pattern: word boundaries if they have to stand alone. -/
def edge (alone : Bool) : String :=
  if alone then "\\b" else ""

/-- The rule that gives the kind to any of the words. -/
def rule (words : List String) (alone : Bool) (kind : Kind) : Rule :=
  { pattern := pattern words (edge alone) (edge alone), action := .token kind }

def expression (words : List String) (alone : Bool) : Regex :=
  if alone then .seq (.look .wordBoundary) (.seq (choice words) (.look .wordBoundary))
  else choice words

/-- The rule made ready to run. -/
def ready (words : List String) (alone : Bool) (kind : Kind) : Lexer.Rule :=
  ⟨expression words alone, .token kind, none⟩

/-- The word, which is not empty, stands at the start of `rest`, and with `before` in front of it
there are word boundaries at both of its ends if it has to stand alone. -/
def StandsAt (alone : Bool) (before : Option Char) (rest : List Char) (word : String) : Prop :=
  word ≠ "" ∧ word.toList <+: rest ∧
    (alone → Look.wordBoundary.holds before rest.head? ∧
      Look.wordBoundary.holds word.toList.getLast? (rest.drop word.length).head?)

instance (alone : Bool) (before : Option Char) (rest : List Char) :
    DecidablePred (StandsAt alone before rest) :=
  fun _ ↦ inferInstanceAs (Decidable (_ ∧ _ ∧ _))

theorem mem_longestFirst {words : List String} {word : String} :
    word ∈ longestFirst words ↔ word ∈ words ∧ word ≠ "" := by
  simp [longestFirst]

theorem pairwise_longestFirst (words : List String) :
    (longestFirst words).Pairwise fun word later ↦ later.utf8ByteSize ≤ word.utf8ByteSize := by
  have hsorted : (longestFirst words).Pairwise fun word later ↦
      decide (later.utf8ByteSize ≤ word.utf8ByteSize) = true := by
    apply List.pairwise_mergeSort
    · intro a b c hab hbc
      rw [decide_eq_true_iff] at hab hbc ⊢
      exact Nat.le_trans hbc hab
    · intro a b
      simpa using Nat.le_total b.utf8ByteSize a.utf8ByteSize
  exact hsorted.imp of_decide_eq_true

theorem plain_expression (words : List String) (alone : Bool) : (expression words alone).Plain := by
  have hchoice : (choice words).Plain := by
    apply Regex.plain_altAll
    intro r hr
    obtain ⟨word, -, rfl⟩ := List.mem_map.1 hr
    exact Regex.plain_text word.toList
  cases alone with
  | false => exact hchoice
  | true =>
    exact ⟨by simp [expression, Regex.isSteady, hchoice.steady],
      by simp [expression, Regex.lastGroup, hchoice.lastGroup_eq]⟩

theorem parse_pattern (words : List String) (alone : Bool) :
    Pattern.parse Lexer.ruleFlags (pattern words (edge alone) (edge alone)).toList =
      .ok (expression words alone) := by
  cases alone with
  | false => exact parse_pattern_plain words _ rfl
  | true => exact parse_pattern_boundaries words _ rfl

theorem ways_choice {words : List String} (hwords : longestFirst words ≠ []) (way : Way) :
    (choice words).ways way = (longestFirst words).flatMap fun word ↦
      if word.toList <+: way.rest then [way.skip word.length] else [] := by
  have hne : (longestFirst words).map (fun word ↦ Regex.text word.toList) ≠ [] := by
    simpa using hwords
  rw [choice, Regex.ways_altAll hne, List.flatMap_map]
  apply List.flatMap_congr
  intro word _
  rw [Regex.ways_text, String.length_toList]

/-- Each word has one way, if it stands at the place, and the longer words have theirs first. -/
theorem ways_expression {words : List String} (hwords : longestFirst words ≠ []) (alone : Bool)
    (way : Way) : (expression words alone).ways way = (longestFirst words).flatMap fun word ↦
      if StandsAt alone way.before way.rest word then [way.skip word.length] else [] := by
  have hword {word : String} (hmem : word ∈ longestFirst words) := (mem_longestFirst.1 hmem).2
  cases alone with
  | false =>
    rw [expression, if_neg Bool.false_ne_true, ways_choice hwords]
    apply List.flatMap_congr
    intro word hmem
    simp [StandsAt, hword hmem]
  | true =>
    have hways : (expression words true).ways way =
        if Look.wordBoundary.holds way.before way.rest.head? then
          ((choice words).ways way).flatMap (Regex.look .wordBoundary).ways else [] := by
      rw [expression, if_pos rfl, Regex.ways, Regex.ways]
      split
      · rw [List.flatMap_singleton, Regex.ways]
      · rfl
    rw [hways]
    split
    · next hstart =>
      rw [ways_choice hwords, List.flatMap_assoc]
      apply List.flatMap_congr
      intro word hmem
      by_cases hprefix : word.toList <+: way.rest
      · have htake : way.rest.take word.length = word.toList := by
          rw [← String.length_toList]
          exact List.prefix_iff_eq_take.1 hprefix |>.symm
        have hlast : word.toList.getLast?.or way.before = word.toList.getLast? := by
          have hne : word.toList ≠ [] := mt String.toList_eq_nil_iff.1 (hword hmem)
          rw [List.getLast?_eq_getLast_of_ne_nil hne, Option.some_or]
        simp [StandsAt, hword hmem, hprefix, hstart, Regex.ways, Way.skip, htake, hlast]
      · simp [StandsAt, hprefix]
    · next hstart => simp [StandsAt, hstart]

/-- The longest word that stands at the place, if any. -/
def longestAt? (words : List String) (alone : Bool) (before : Option Char) (rest : List Char) :
    Option String :=
  (longestFirst words).find? (StandsAt alone before rest ·)

theorem longestAt?_eq_some {words : List String} {alone : Bool} {before : Option Char}
    {rest : List Char} {word : String} (hlongest : longestAt? words alone before rest = some word) :
    word ∈ words ∧ StandsAt alone before rest word ∧ ∀ other ∈ words,
      StandsAt alone before rest other → other.utf8ByteSize ≤ word.utf8ByteSize := by
  obtain ⟨hstands, earlier, later, hsplit, hearlier⟩ := List.find?_eq_some_iff_append.1 hlongest
  have hmem : word ∈ longestFirst words := by simp [hsplit]
  refine ⟨(mem_longestFirst.1 hmem).1, of_decide_eq_true hstands, ?_⟩
  intro other hother hinstead
  have hothermem : other ∈ longestFirst words := mem_longestFirst.2 ⟨hother, hinstead.1⟩
  have hpairwise := pairwise_longestFirst words
  rw [hsplit] at hothermem hpairwise
  rcases List.mem_append.1 hothermem with hbefore | hafter
  · simpa [hinstead] using hearlier other hbefore
  · rcases List.mem_cons.1 hafter with rfl | hlater
    · exact Nat.le_refl _
    · exact List.rel_of_pairwise_cons (List.pairwise_append.1 hpairwise).2.1 hlater

theorem exists_longestAt? {words : List String} {alone : Bool} {before : Option Char}
    {rest : List Char} {word : String} (hword : word ∈ words)
    (hstands : StandsAt alone before rest word) :
    ∃ longest, longestAt? words alone before rest = some longest := by
  rw [← Option.isSome_iff_exists, longestAt?, List.find?_isSome]
  exact ⟨word, mem_longestFirst.2 ⟨hword, hstands.1⟩, decide_eq_true hstands⟩

/-- Words that stand at the same place are told apart by their lengths. -/
theorem StandsAt.eq_of_utf8ByteSize_eq {alone : Bool} {before : Option Char} {rest : List Char}
    {word other : String} (hword : StandsAt alone before rest word)
    (hother : StandsAt alone before rest other) (hsize : word.utf8ByteSize = other.utf8ByteSize) :
    word = other := by
  obtain ⟨-, ⟨tail, htail⟩, -⟩ := hword
  obtain ⟨-, ⟨more, hmore⟩, -⟩ := hother
  rw [← Text.byteLength_toList, ← Text.byteLength_toList] at hsize
  exact String.toList_injective
    (Text.append_inj_of_byteLength_eq (htail.trans hmore.symm) hsize).1

/-- Only which words are in the list counts, not their order and not how often. -/
theorem longestAt?_congr {words others : List String} (hsame : ∀ word, word ∈ others ↔ word ∈ words)
    (alone : Bool) (before : Option Char) (rest : List Char) :
    longestAt? others alone before rest = longestAt? words alone before rest := by
  cases hword : longestAt? words alone before rest with
  | none =>
    by_contra hne
    obtain ⟨other, hother⟩ := Option.ne_none_iff_exists'.1 hne
    obtain ⟨hmem, hstands, -⟩ := longestAt?_eq_some hother
    obtain ⟨longest, hlongest⟩ := exists_longestAt? ((hsame other).1 hmem) hstands
    rw [hword] at hlongest
    cases hlongest
  | some word =>
    obtain ⟨hmem, hstands, hmaximal⟩ := longestAt?_eq_some hword
    obtain ⟨other, hother⟩ := exists_longestAt? ((hsame word).2 hmem) hstands
    obtain ⟨hothermem, hinstead, hothermaximal⟩ := longestAt?_eq_some hother
    have hsize := Nat.le_antisymm (hmaximal other ((hsame other).1 hothermem) hinstead)
      (hothermaximal word ((hsame word).2 hmem) hstands)
    rw [hother, hinstead.eq_of_utf8ByteSize_eq hstands hsize]

theorem match?_expression {words : List String} (hwords : longestFirst words ≠ []) (alone : Bool)
    (before : Option Char) (rest : List Char) :
    (expression words alone).match? before rest =
      (longestAt? words alone before rest).map fun word ↦ ⟨word.length, []⟩ := by
  have hplain := plain_expression words alone
  rw [Regex.match?_eq hplain.steady, hplain.lastGroup_eq, ways_expression hwords,
    head?_flatMap_ite, Option.map_map]
  simp [longestAt?, Way.skip, Function.comp_def]

/-- Without any word there is a match at most of the empty text. -/
theorem length_eq_zero_of_no_words {words : List String} (hwords : longestFirst words = [])
    {alone : Bool} {before : Option Char} {rest : List Char} {m : Match}
    (hmatch : (expression words alone).match? before rest = some m) : m.length = 0 := by
  have hchoice : choice words = .empty := by
    rw [choice, hwords]
    rfl
  rw [Regex.match?_eq (plain_expression words alone).steady, Option.map_eq_some_iff] at hmatch
  obtain ⟨way, hhead, rfl⟩ := hmatch
  have hway := List.mem_of_mem_head? hhead
  cases alone with
  | false =>
    obtain rfl : way = _ := by simpa [expression, hchoice, Regex.ways] using hway
    rfl
  | true =>
    rw [expression, if_pos rfl, hchoice, Regex.ways, List.mem_flatMap] at hway
    obtain ⟨first, hfirst, hway⟩ := hway
    have hlook {start after : Way} (hafter : after ∈ (Regex.look .wordBoundary).ways start) :
        after = start := by
      rw [Regex.ways] at hafter
      split at hafter
      · exact List.mem_singleton.1 hafter
      · cases hafter
    obtain ⟨second, hsecond, hthird⟩ := List.mem_flatMap.1 hway
    obtain rfl := List.mem_singleton.1 hsecond
    rw [hlook hthird, hlook hfirst]

theorem firstMatch?_ready (words : List String) (alone : Bool) (kind : Kind)
    (before : Option Char) (rest : List Char) :
    Lexer.firstMatch? before rest [ready words alone kind] =
      (longestAt? words alone before rest).map fun word ↦
        (ready words alone kind, ⟨word.length, []⟩) := by
  have hregex : (ready words alone kind).regex = expression words alone := rfl
  rw [Lexer.firstMatch?, hregex]
  by_cases hwords : longestFirst words = []
  · have hlongest : longestAt? words alone before rest = none := by rw [longestAt?, hwords]; rfl
    rw [hlongest]
    cases hmatch : (expression words alone).match? before rest with
    | none => rfl
    | some m => exact if_pos (length_eq_zero_of_no_words hwords hmatch)
  · rw [match?_expression hwords]
    cases hlongest : longestAt? words alone before rest with
    | none => rfl
    | some word =>
      obtain ⟨-, ⟨hne, -⟩, -⟩ := longestAt?_eq_some hlongest
      have hlength : word.length ≠ 0 := by simpa using hne
      exact if_neg hlength

/-- The pattern for a list of words is always in order, as a rule of any table, and has no groups.
At every place its rule takes the longest of the words that stand there, and nothing if there is
none. So order and repetition in the list make no difference, and a list without words other than
the empty one is never matched. -/
theorem rule_takes_longest (words : List String) (alone : Bool) (kind : Kind) :
    (∀ table location, Lexer.readRule Lexer.lineReader table ⟨rule words alone kind, location⟩ =
      .ok (ready words alone kind)) ∧
    (ready words alone kind).regex.groupCount = 0 ∧
    (∀ before rest, (∃ m, Lexer.firstMatch? before rest [ready words alone kind] =
        some (ready words alone kind, m)) ↔ ∃ word ∈ words, StandsAt alone before rest word) ∧
    (∀ before rest m, Lexer.firstMatch? before rest [ready words alone kind] =
        some (ready words alone kind, m) →
      ∃ word ∈ words, StandsAt alone before rest word ∧ rest.take m.length = word.toList ∧
        ∀ other ∈ words, StandsAt alone before rest other →
          other.utf8ByteSize ≤ word.utf8ByteSize) ∧
    (∀ others, (∀ word, word ∈ others ↔ word ∈ words) → ∀ before rest,
      (Lexer.firstMatch? before rest [ready others alone kind]).map (·.2) =
        (Lexer.firstMatch? before rest [ready words alone kind]).map (·.2)) ∧
    ((∀ word ∈ words, word = "") → ∀ before rest,
      Lexer.firstMatch? before rest [ready words alone kind] = none) := by
  have hgroups : (expression words alone).lastGroup = 0 :=
    (plain_expression words alone).lastGroup_eq
  refine ⟨?_, Nat.eq_zero_of_le_zero (hgroups ▸ Regex.groupCount_le_lastGroup _), ?_, ?_, ?_, ?_⟩
  · intro table location
    apply Lexer.readRule_eq_ok_iff.2
    exact ⟨Lexer.lineReader_eq_ok_iff.2 (parse_pattern words alone), rfl, rfl, by simp [rule],
      by simp [rule]⟩
  · intro before rest
    rw [firstMatch?_ready]
    constructor
    · rintro ⟨m, hmatch⟩
      obtain ⟨word, hlongest, -⟩ := Option.map_eq_some_iff.1 hmatch
      obtain ⟨hmem, hstands, -⟩ := longestAt?_eq_some hlongest
      exact ⟨word, hmem, hstands⟩
    · rintro ⟨word, hmem, hstands⟩
      obtain ⟨longest, hlongest⟩ := exists_longestAt? hmem hstands
      exact ⟨⟨longest.length, []⟩, by rw [hlongest]; rfl⟩
  · intro before rest m hmatch
    rw [firstMatch?_ready] at hmatch
    obtain ⟨word, hlongest, hpair⟩ := Option.map_eq_some_iff.1 hmatch
    obtain rfl := (Prod.mk.inj hpair).2
    obtain ⟨hmem, hstands, hmaximal⟩ := longestAt?_eq_some hlongest
    refine ⟨word, hmem, hstands, ?_, hmaximal⟩
    rw [List.prefix_iff_eq_take.1 hstands.2.1, String.length_toList]
  · intro others hsame before rest
    rw [firstMatch?_ready, firstMatch?_ready, longestAt?_congr hsame, Option.map_map,
      Option.map_map]
    rfl
  · intro hempty before rest
    have hnone : longestAt? words alone before rest = none := by
      by_contra hne
      obtain ⟨word, hlongest⟩ := Option.ne_none_iff_exists'.1 hne
      obtain ⟨hmem, hstands, -⟩ := longestAt?_eq_some hlongest
      exact hstands.1 (hempty word hmem)
    rw [firstMatch?_ready, hnone]
    rfl

/-- The longer phrase begins here too, but it does not end with a word. -/
example : Lexer.firstMatch? none "polars group-bys".toList
    [ready ["polars", "polars group-by", "polars"] true .keyword] =
      some (ready ["polars", "polars group-by", "polars"] true .keyword, ⟨6, []⟩) := by
  cbv

end WordList

end LexTable
