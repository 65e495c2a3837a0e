import LexTable.Proofs.Lexer.Tiling
import Mathlib.Data.Nat.Find

/-!
# Division of a match among its groups

The groups that have a kind are tried in the order of their numbers. One that takes part, is not
empty and does not reach back over a piece given out before it owns a token; text that no group
owns is given out gap by gap. Where groups lie one after the other or inside each other, all
characters go to the outermost group around them.
-/

namespace LexTable

open Text (byteLength)

/-- The position of a character of a text that begins at `position`. -/
def Text.place (position : Nat) (text : List Char) (index : Nat) : Nat :=
  position + byteLength (text.take index)

theorem Text.place_mono (position : Nat) (text : List Char) {first last : Nat}
    (hle : first ≤ last) : place position text first ≤ place position text last := by
  obtain ⟨more, rfl⟩ := Nat.exists_eq_add_of_le hle
  rw [place, place, List.take_add, byteLength_append]
  omega

theorem Text.lt_of_place_lt {position : Nat} {text : List Char} {first last : Nat}
    (hlt : place position text first < place position text last) : first < last := by
  by_contra hge
  exact absurd (place_mono position text (Nat.le_of_not_lt hge)) (Nat.not_le_of_gt hlt)

/-- The token of the characters from `first` to before `last`. -/
def Token.slice (kind : Kind) (position : Nat) (text : List Char) (first last : Nat) : Token :=
  .of kind (Text.place position text first) ((text.take last).drop first)

theorem Token.slice_stop (kind : Kind) (position : Nat) (text : List Char) {first last : Nat}
    (hle : first ≤ last) :
    (slice kind position text first last).span.stop = Text.place position text last := by
  obtain ⟨more, rfl⟩ := Nat.exists_eq_add_of_le hle
  change Text.place position text first + byteLength _ = _
  rw [Text.place, Text.place, List.drop_take, Nat.add_sub_cancel_left, List.take_add,
    Text.byteLength_append, Nat.add_assoc]

/-- The pieces with the places where they begin and end. -/
def placed : Nat → List (Kind × Nat) → List (Kind × Nat × Nat)
  | _, [] => []
  | first, (kind, length) :: pieces =>
    (kind, first, first + length) :: placed (first + length) pieces

theorem Token.cut_eq_map (position : Nat) (text : List Char) (pieces : List (Kind × Nat))
    (first : Nat) :
    Token.cut (Text.place position text first) (text.drop first) pieces =
      (placed first pieces).map fun piece ↦ slice piece.1 position text piece.2.1 piece.2.2 := by
  induction pieces generalizing first with
  | nil => rfl
  | cons piece pieces ih =>
    obtain ⟨kind, length⟩ := piece
    have hvalue : (text.drop first).take length = (text.take (first + length)).drop first := by
      rw [List.drop_take, Nat.add_sub_cancel_left]
    have hstop : Text.place position text first + byteLength ((text.drop first).take length) =
        Text.place position text (first + length) := by
      rw [Text.place, Text.place, List.take_add, Text.byteLength_append, Nat.add_assoc]
    have hrest := ih (first + length)
    rw [Token.cut, placed, List.map_cons, hstop, List.drop_drop, hrest, Token.slice, ← hvalue]
    rw [Token.of, hstop]

/-- Each place before the end of the pieces is inside one of them. -/
theorem exists_mem_placed {first index : Nat} {pieces : List (Kind × Nat)} (hfirst : first ≤ index)
    (hindex : index < first + piecesLength pieces) :
    ∃ piece ∈ placed first pieces, piece.2.1 ≤ index ∧ index < piece.2.2 := by
  induction pieces generalizing first with
  | nil => exact absurd hindex (Nat.not_lt_of_le hfirst)
  | cons piece pieces ih =>
    obtain ⟨kind, length⟩ := piece
    have hsum : piecesLength ((kind, length) :: pieces) = length + piecesLength pieces := rfl
    rw [hsum, ← Nat.add_assoc] at hindex
    rcases Nat.lt_or_ge index (first + length) with hlt | hge
    · exact ⟨_, List.mem_cons_self, hfirst, hlt⟩
    · obtain ⟨piece, hpiece, hinside⟩ := ih hge hindex
      exact ⟨piece, List.mem_cons_of_mem _ hpiece, hinside⟩

namespace Match

/-- The group for the kind at `index` took part from `first` to `last`. -/
def Spans (m : Match) (index first last : Nat) : Prop :=
  m.group? (index + 1) = some (first, last)

theorem Spans.unique {m : Match} {index first last start stop : Nat}
    (hspans : m.Spans index first last) (hother : m.Spans index start stop) :
    first = start ∧ last = stop := by
  simpa using (hspans.symm.trans hother : some (first, last) = some (start, stop))

/-- The group has a token of its own: it is not empty and begins no earlier than where the groups
before it end that have one. -/
def Owns (m : Match) (index : Nat) : Prop :=
  ∃ first last, m.Spans index first last ∧ first < last ∧
    ∀ earlier, (_ : earlier < index) → m.Owns earlier →
      ∀ start stop, m.Spans earlier start stop → stop ≤ first
termination_by index

theorem owns_iff {m : Match} {index first last : Nat} (hspans : m.Spans index first last) :
    m.Owns index ↔ first < last ∧ ∀ earlier < index, m.Owns earlier →
      ∀ start stop, m.Spans earlier start stop → stop ≤ first := by
  rw [Owns]
  constructor
  · rintro ⟨start, stop, hother, howns⟩
    obtain ⟨rfl, rfl⟩ := hspans.unique hother
    exact howns
  · intro howns
    exact ⟨first, last, hspans, howns⟩

theorem Owns.exists_spans {m : Match} {index : Nat} (howns : m.Owns index) :
    ∃ first last, m.Spans index first last ∧ first < last := by
  rw [Owns] at howns
  obtain ⟨first, last, hspans, hlt, -⟩ := howns
  exact ⟨first, last, hspans, hlt⟩

/-- None of the first `count` groups owns a character from `first` to before `last`. -/
def Free (m : Match) (count first last : Nat) : Prop :=
  ∀ index < count, m.Owns index → ∀ start stop, m.Spans index start stop →
    stop ≤ first ∨ last ≤ start

/-- No larger part of the match than the one from `first` to `last` is free. -/
structure Gap (m : Match) (count first last : Nat) : Prop where
  lt : first < last
  le : last ≤ m.length
  free : m.Free count first last
  maximal : ∀ start stop, start ≤ first → last ≤ stop → stop ≤ m.length →
    m.Free count start stop → start = first ∧ stop = last

/-- Two gaps that share a character are the same. -/
theorem Gap.eq_of_overlap {m : Match} {count first last start stop : Nat}
    (hgap : m.Gap count first last) (hother : m.Gap count start stop) (hstart : start < last)
    (hstop : first < stop) : first = start ∧ last = stop := by
  have hboth : m.Free count (min first start) (max last stop) := by
    intro index hindex howns left right hspans
    have hfree := hgap.free index hindex howns left right hspans
    have hbeside := hother.free index hindex howns left right hspans
    obtain ⟨left', right', hspans', hlt⟩ := howns.exists_spans
    obtain ⟨rfl, rfl⟩ := hspans.unique hspans'
    omega
  have hle : max last stop ≤ m.length := Nat.max_le.2 ⟨hgap.le, hother.le⟩
  obtain ⟨hfirst, hlast⟩ := hgap.maximal _ _ (Nat.min_le_left ..) (Nat.le_max_left ..) hle hboth
  obtain ⟨hmin, hmax⟩ := hother.maximal _ _ (Nat.min_le_right ..) (Nat.le_max_right ..) hle hboth
  exact ⟨hfirst.symm.trans hmin, hlast.symm.trans hmax⟩

/-- The pieces up to `done` are given out: it is the end of the last group before `index` that owns
a token. -/
structure Passed (m : Match) (index done : Nat) : Prop where
  stop_le : ∀ earlier < index, m.Owns earlier → ∀ start stop, m.Spans earlier start stop →
    stop ≤ done
  reached : done = 0 ∨ ∃ earlier < index, m.Owns earlier ∧ ∃ start, m.Spans earlier start done

namespace Passed

variable {m : Match} {index done first last : Nat}

theorem zero (m : Match) : m.Passed 0 0 where
  stop_le earlier hearlier := absurd hearlier (Nat.not_lt_zero earlier)
  reached := .inl rfl

/-- A group that comes later does not reach back over what is given out. -/
theorem le_start (hpassed : m.Passed index done) {later : Nat} (hlater : index ≤ later)
    (howns : m.Owns later) (hspans : m.Spans later first last) : done ≤ first := by
  rcases hpassed.reached with rfl | ⟨earlier, hearlier, hearlierOwns, start, hstart⟩
  · exact Nat.zero_le first
  · have hbefore := ((owns_iff hspans).1 howns).2
    exact hbefore earlier (Nat.lt_of_lt_of_le hearlier hlater) hearlierOwns start done hstart

theorem owns_iff (hpassed : m.Passed index done) (hspans : m.Spans index first last) :
    m.Owns index ↔ first < last ∧ done ≤ first := by
  constructor
  · intro howns
    exact ⟨((Match.owns_iff hspans).1 howns).1, hpassed.le_start (Nat.le_refl index) howns hspans⟩
  · rintro ⟨hlt, hdone⟩
    refine (Match.owns_iff hspans).2 ⟨hlt, ?_⟩
    intro earlier hearlier howns start stop hother
    exact Nat.le_trans (hpassed.stop_le earlier hearlier howns start stop hother) hdone

theorem own (hpassed : m.Passed index done) (howns : m.Owns index)
    (hspans : m.Spans index first last) : m.Passed (index + 1) last where
  stop_le earlier hearlier hearlierOwns start stop hother := by
    obtain ⟨hlt, hdone⟩ := (hpassed.owns_iff hspans).1 howns
    rcases Nat.lt_succ_iff_lt_or_eq.1 hearlier with hbefore | rfl
    · have hstop := hpassed.stop_le earlier hbefore hearlierOwns start stop hother
      omega
    · exact Nat.le_of_eq (hspans.unique hother).2.symm
  reached := .inr ⟨index, Nat.lt_succ_self index, howns, first, hspans⟩

theorem skip (hpassed : m.Passed index done) (hnot : ¬ m.Owns index) :
    m.Passed (index + 1) done where
  stop_le earlier hearlier howns := by
    rcases Nat.lt_succ_iff_lt_or_eq.1 hearlier with hbefore | rfl
    · exact hpassed.stop_le earlier hbefore howns
    · exact absurd howns hnot
  reached := by
    rcases hpassed.reached with hzero | ⟨earlier, hearlier, hreached⟩
    · exact .inl hzero
    · exact .inr ⟨earlier, Nat.lt_succ_of_lt hearlier, hreached⟩

/-- From what is given out to the next group that owns a token, or to the end, there is a gap. -/
theorem gap (hpassed : m.Passed index done) {count stop : Nat} (hcount : index ≤ count)
    (hlt : done < stop) (hle : stop ≤ m.length)
    (hstop : stop = m.length ∨ ∃ next < count, m.Owns next ∧ ∃ last, m.Spans next stop last)
    (hlater : ∀ later < count, index ≤ later → m.Owns later → ∀ first last,
      m.Spans later first last → stop ≤ first) : m.Gap count done stop where
  lt := hlt
  le := hle
  free other hother howns first last hspans := by
    rcases Nat.lt_or_ge other index with hbefore | hafter
    · exact .inl (hpassed.stop_le other hbefore howns first last hspans)
    · exact .inr (hlater other hother hafter howns first last hspans)
  maximal first last hfirst hlast hend hfree := by
    constructor
    · rcases hpassed.reached with rfl | ⟨earlier, hearlier, howns, start, hspans⟩
      · exact Nat.le_zero.1 hfirst
      · have hbeside := hfree earlier (Nat.lt_of_lt_of_le hearlier hcount) howns start done hspans
        have hown := ((Match.owns_iff hspans).1 howns).1
        omega
    · rcases hstop with rfl | ⟨next, hnext, howns, limit, hspans⟩
      · exact Nat.le_antisymm hend hlast
      · have hbeside := hfree next hnext howns stop limit hspans
        have hown := ((Match.owns_iff hspans).1 howns).1
        omega

end Passed

/-- The groups from `index` on, with their kinds. -/
def groupsFrom (m : Match) (index : Nat) (kinds : List Kind) :
    List (Kind × Option (Nat × Nat)) :=
  kinds.mapIdx fun offset kind ↦ (kind, m.group? (offset + index + 1))

theorem groupsFrom_cons (m : Match) (index : Nat) (kind : Kind) (kinds : List Kind) :
    m.groupsFrom index (kind :: kinds) =
      (kind, m.group? (index + 1)) :: m.groupsFrom (index + 1) kinds := by
  have hindex (offset : Nat) : offset + 1 + index + 1 = offset + (index + 1) + 1 := by omega
  rw [groupsFrom, groupsFrom, List.mapIdx_cons, Nat.zero_add]
  simp only [hindex]

/-- The pieces of a match, with their places, once those up to `done` are given out. -/
def piecesFrom (m : Match) (index done : Nat) (kinds : List Kind) : List (Kind × Nat × Nat) :=
  placed done (Action.divide m.length done (m.groupsFrom index kinds))

section pieces

variable {m : Match} {index done first last : Nat}

theorem piecesFrom_nil :
    m.piecesFrom index done [] = if done < m.length then [(.text, done, m.length)] else [] := by
  change placed done (if done < m.length then _ else _) = _
  split
  · next hlt => rw [placed, placed, Nat.add_sub_cancel' (Nat.le_of_lt hlt)]
  · rfl

theorem piecesFrom_own (hpassed : m.Passed index done) (howns : m.Owns index)
    (hspans : m.Spans index first last) (kind : Kind) (kinds : List Kind) :
    m.piecesFrom index done (kind :: kinds) =
      (if done < first then [(.text, done, first)] else []) ++
        (kind, first, last) :: m.piecesFrom (index + 1) last kinds := by
  have howner := (hpassed.owns_iff hspans).1 howns
  have hlast : first + (last - first) = last := Nat.add_sub_cancel' (Nat.le_of_lt howner.1)
  rw [piecesFrom, groupsFrom_cons, hspans, Action.divide, if_pos howner]
  split
  · rw [List.singleton_append, placed, Nat.add_sub_cancel' howner.2, placed, hlast]
    rfl
  · next hge =>
    obtain rfl : done = first := Nat.le_antisymm howner.2 (Nat.le_of_not_lt hge)
    rw [List.nil_append, placed, hlast]
    rfl

theorem piecesFrom_skip (hpassed : m.Passed index done) (hnot : ¬ m.Owns index) (kind : Kind)
    (kinds : List Kind) :
    m.piecesFrom index done (kind :: kinds) = m.piecesFrom (index + 1) done kinds := by
  rw [piecesFrom, groupsFrom_cons]
  rcases hgroup : m.group? (index + 1) with _ | ⟨first, last⟩
  · rw [Action.divide]
    rfl
  · rw [Action.divide, if_neg (mt (hpassed.owns_iff hgroup).2 hnot)]
    rfl

/-- The pieces are the groups that own a token, and gaps. -/
theorem of_mem_piecesFrom
    (hfits : ∀ index first last, m.Spans index first last → last ≤ m.length)
    (hpassed : m.Passed index done) (kinds : List Kind) {kind : Kind}
    (hpiece : (kind, first, last) ∈ m.piecesFrom index done kinds) :
    (∃ offset, kinds[offset]? = some kind ∧ m.Owns (index + offset) ∧
      m.Spans (index + offset) first last) ∨
    kind = .text ∧ m.Gap (index + kinds.length) first last := by
  induction kinds generalizing index done with
  | nil =>
    rw [piecesFrom_nil] at hpiece
    split at hpiece
    · next hlt =>
      obtain ⟨rfl, rfl, rfl⟩ : kind = .text ∧ first = done ∧ last = m.length := by
        simpa using hpiece
      refine .inr ⟨rfl, hpassed.gap (Nat.le_refl index) hlt (Nat.le_refl _) (.inl rfl) ?_⟩
      intro later hlater hindex
      exact absurd hindex (Nat.not_le_of_gt hlater)
    · cases hpiece
  | cons next kinds ih =>
    have hcount : index + (next :: kinds).length = index + 1 + kinds.length := by
      rw [List.length_cons]
      omega
    -- a group that comes later keeps its kind
    have hshift (hlater : (∃ offset, kinds[offset]? = some kind ∧ m.Owns (index + 1 + offset) ∧
        m.Spans (index + 1 + offset) first last) ∨
        kind = .text ∧ m.Gap (index + 1 + kinds.length) first last) :
        (∃ offset, (next :: kinds)[offset]? = some kind ∧ m.Owns (index + offset) ∧
          m.Spans (index + offset) first last) ∨
        kind = .text ∧ m.Gap (index + (next :: kinds).length) first last := by
      rw [hcount]
      refine hlater.imp_left ?_
      rintro ⟨offset, hoffset⟩
      rw [Nat.add_right_comm] at hoffset
      exact ⟨offset + 1, hoffset⟩
    by_cases howns : m.Owns index
    · obtain ⟨start, stop, hspans, hlt⟩ := howns.exists_spans
      have hafter := hpassed.own howns hspans
      rw [piecesFrom_own hpassed howns hspans, List.mem_append, List.mem_cons] at hpiece
      rcases hpiece with hgap | hown | hlater
      · split at hgap
        · next hdone =>
          obtain ⟨rfl, rfl, rfl⟩ : kind = .text ∧ first = done ∧ last = start := by
            simpa using hgap
          have hle : last ≤ m.length := Nat.le_trans (Nat.le_of_lt hlt) (hfits _ _ _ hspans)
          have hindex : index < index + (next :: kinds).length := by simp
          refine .inr ⟨rfl, hpassed.gap (Nat.le_of_lt hindex) hdone hle
            (.inr ⟨index, hindex, howns, stop, hspans⟩) ?_⟩
          intro later hlater hfrom hlaterOwns left right hother
          rcases Nat.eq_or_lt_of_le hfrom with rfl | hbehind
          · exact Nat.le_of_eq (hspans.unique hother).1
          · exact Nat.le_trans (Nat.le_of_lt hlt) (hafter.le_start hbehind hlaterOwns hother)
        · cases hgap
      · obtain ⟨rfl, rfl, rfl⟩ : kind = next ∧ first = start ∧ last = stop := by simpa using hown
        exact .inl ⟨0, rfl, howns, hspans⟩
      · exact hshift (ih hafter hlater)
    · rw [piecesFrom_skip hpassed howns] at hpiece
      exact hshift (ih (hpassed.skip howns) hpiece)

/-- Every group that owns a token is a piece. -/
theorem mem_piecesFrom (hpassed : m.Passed index done) {kinds : List Kind} {offset : Nat}
    {kind : Kind} (hkind : kinds[offset]? = some kind) (howns : m.Owns (index + offset))
    (hspans : m.Spans (index + offset) first last) :
    (kind, first, last) ∈ m.piecesFrom index done kinds := by
  induction kinds generalizing index done offset with
  | nil => cases hkind
  | cons next kinds ih =>
    cases offset with
    | zero =>
      obtain rfl : next = kind := Option.some.inj hkind
      rw [piecesFrom_own hpassed howns hspans]
      exact List.mem_append_right _ List.mem_cons_self
    | succ offset =>
      rw [← Nat.add_assoc, Nat.add_right_comm] at howns hspans
      by_cases hown : m.Owns index
      · obtain ⟨start, stop, hbefore, -⟩ := hown.exists_spans
        rw [piecesFrom_own hpassed hown hbefore]
        apply List.mem_append_right
        exact List.mem_cons_of_mem _ (ih (hpassed.own hown hbefore) hkind howns hspans)
      · rw [piecesFrom_skip hpassed hown]
        exact ih (hpassed.skip hown) hkind howns hspans

end pieces

/-- The tokens of a match whose groups have these kinds. -/
def groupTokens (m : Match) (kinds : List Kind) (position : Nat) (text : List Char) : List Token :=
  Token.cut position text ((Action.byGroups kinds).pieces m)

section tokens

variable {m : Match} {kinds : List Kind} {position byte : Nat} {text : List Char} {token : Token}

theorem mem_groupTokens : token ∈ m.groupTokens kinds position text ↔
    ∃ kind first last, (kind, first, last) ∈ m.piecesFrom 0 0 kinds ∧
      token = .slice kind position text first last := by
  have hcut := Token.cut_eq_map position text ((Action.byGroups kinds).pieces m) 0
  have hstart : Text.place position text 0 = position := rfl
  rw [hstart, List.drop_zero] at hcut
  rw [groupTokens, hcut, List.mem_map]
  constructor
  · rintro ⟨⟨kind, first, last⟩, hpiece, rfl⟩
    exact ⟨kind, first, last, hpiece, rfl⟩
  · rintro ⟨kind, first, last, hpiece, rfl⟩
    exact ⟨(kind, first, last), hpiece, rfl⟩

theorem pieces_byGroups_partition
    (hfits : ∀ index first last, m.Spans index first last → last ≤ m.length) :
    Partition ((Action.byGroups kinds).pieces m) m.length := by
  apply Action.divide_partition _ (Nat.zero_le _)
  intro kind first last hmem
  obtain ⟨index, hindex, hgroup⟩ := List.mem_mapIdx.1 hmem
  exact hfits index first last (Prod.mk.inj hgroup).2

theorem groupTokens_tiles (hlength : text.length = m.length)
    (hfits : ∀ index first last, m.Spans index first last → last ≤ m.length) :
    Tiles position text (m.groupTokens kinds position text) := by
  apply Token.cut_tiles
  rw [hlength]
  exact pieces_byGroups_partition hfits

/-- No gap is left out. -/
theorem mem_piecesFrom_of_gap
    (hfits : ∀ index first last, m.Spans index first last → last ≤ m.length) {first last : Nat}
    (hgap : m.Gap kinds.length first last) : (.text, first, last) ∈ m.piecesFrom 0 0 kinds := by
  have hinside : first < 0 + piecesLength ((Action.byGroups kinds).pieces m) := by
    rw [(pieces_byGroups_partition hfits).length_eq, Nat.zero_add]
    exact Nat.lt_of_lt_of_le hgap.lt hgap.le
  obtain ⟨⟨kind, start, stop⟩, hpiece, hstart, hstop⟩ :=
    exists_mem_placed (Nat.zero_le first) hinside
  rcases of_mem_piecesFrom hfits (.zero m) kinds hpiece with
    ⟨index, hkind, howns, hspans⟩ | ⟨rfl, hother⟩
  · rw [Nat.zero_add] at howns hspans
    have hindex := (List.getElem?_eq_some_iff.1 hkind).1
    have hbeside := hgap.free index hindex howns start stop hspans
    have hlt := hgap.lt
    dsimp only at hstart hstop
    omega
  · rw [Nat.zero_add] at hother
    have hstartLast := Nat.lt_of_le_of_lt hstart hgap.lt
    obtain ⟨rfl, rfl⟩ := hgap.eq_of_overlap hother hstartLast hstop
    exact hpiece

theorem mem_groupTokens_iff
    (hfits : ∀ index first last, m.Spans index first last → last ≤ m.length) :
    token ∈ m.groupTokens kinds position text ↔
      (∃ index kind first last, kinds[index]? = some kind ∧ m.Owns index ∧
        m.Spans index first last ∧ token = .slice kind position text first last) ∨
      ∃ first last, m.Gap kinds.length first last ∧
        token = .slice .text position text first last := by
  rw [mem_groupTokens]
  constructor
  · rintro ⟨kind, first, last, hpiece, rfl⟩
    rcases of_mem_piecesFrom hfits (.zero m) kinds hpiece with
      ⟨index, hkind, howns, hspans⟩ | ⟨rfl, hgap⟩
    · rw [Nat.zero_add] at howns hspans
      exact .inl ⟨index, kind, first, last, hkind, howns, hspans, rfl⟩
    · rw [Nat.zero_add] at hgap
      exact .inr ⟨first, last, hgap, rfl⟩
  · rintro (⟨index, kind, first, last, hkind, howns, hspans, rfl⟩ | ⟨first, last, hgap, rfl⟩)
    · rw [← Nat.zero_add index] at howns hspans
      exact ⟨kind, first, last, mem_piecesFrom (.zero m) hkind howns hspans, rfl⟩
    · exact ⟨.text, first, last, mem_piecesFrom_of_gap hfits hgap, rfl⟩

/-- The byte is inside the group for the kind at `index`. -/
def Covers (m : Match) (position : Nat) (text : List Char) (index byte : Nat) : Prop :=
  ∃ first last, m.Spans index first last ∧ Text.place position text first ≤ byte ∧
    byte < Text.place position text last

/-- The group is around all of the first `count` groups that the byte is inside of. -/
structure Outermost (m : Match) (position : Nat) (text : List Char) (count byte index : Nat) :
    Prop where
  covers : m.Covers position text index byte
  around : ∀ other < count, m.Covers position text other byte → index ≤ other ∧
    ∀ first last start stop, m.Spans index first last → m.Spans other start stop →
      first ≤ start ∧ stop ≤ last

/-- Of two groups the later one begins behind the earlier one or lies inside it. -/
def Nests (m : Match) : Prop :=
  ∀ index other, index < other → ∀ first last start stop, m.Spans index first last →
    m.Spans other start stop → last ≤ start ∨ first ≤ start ∧ stop ≤ last

theorem Nests.inside (hnests : m.Nests) {index other : Nat} (hlt : index < other)
    {first last start stop : Nat} (hspans : m.Spans index first last)
    (hother : m.Spans other start stop) (hcovers : m.Covers position text index byte)
    (hinside : m.Covers position text other byte) : first ≤ start ∧ stop ≤ last := by
  obtain ⟨first', last', hspans', -, hlast⟩ := hcovers
  obtain ⟨rfl, rfl⟩ := hspans.unique hspans'
  obtain ⟨start', stop', hother', hstart, -⟩ := hinside
  obtain ⟨rfl, rfl⟩ := hother.unique hother'
  rcases hnests index other hlt first last start stop hspans hother with hbehind | hwithin
  · exact absurd hbehind (Nat.not_le_of_gt (Text.lt_of_place_lt (Nat.lt_of_le_of_lt hstart hlast)))
  · exact hwithin

/-- The first group that a byte is inside of is around all others, and owns a token. -/
theorem Nests.outermost (hnests : m.Nests) {index : Nat}
    (hcovers : m.Covers position text index byte)
    (hfirst : ∀ earlier < index, ¬ m.Covers position text earlier byte) (count : Nat) :
    m.Outermost position text count byte index ∧ m.Owns index := by
  refine ⟨⟨hcovers, ?_⟩, ?_⟩
  · intro other hother hothers
    have hle : index ≤ other := by
      by_contra hgt
      exact hfirst other (Nat.lt_of_not_le hgt) hothers
    refine ⟨hle, ?_⟩
    intro first last start stop hspans hotherSpans
    rcases Nat.eq_or_lt_of_le hle with rfl | hlt
    · obtain ⟨rfl, rfl⟩ := hspans.unique hotherSpans
      exact ⟨Nat.le_refl _, Nat.le_refl _⟩
    · exact hnests.inside hlt hspans hotherSpans hcovers hothers
  · obtain ⟨first, last, hspans, hstart, hstop⟩ := hcovers
    have hlt := Text.lt_of_place_lt (Nat.lt_of_le_of_lt hstart hstop)
    refine (owns_iff hspans).2 ⟨hlt, ?_⟩
    intro earlier hearlier howns start stop hearlierSpans
    rcases hnests earlier index hearlier start stop first last hearlierSpans hspans with
      hbehind | ⟨hleft, hright⟩
    · exact hbehind
    · -- a group around this one would hold the byte as well
      refine absurd ⟨start, stop, hearlierSpans, ?_, ?_⟩ (hfirst earlier hearlier)
      · exact Nat.le_trans (Text.place_mono position text hleft) hstart
      · exact Nat.lt_of_lt_of_le hstop (Text.place_mono position text hright)

theorem exists_first_covers {index : Nat} (hcovers : m.Covers position text index byte) :
    ∃ first ≤ index, m.Covers position text first byte ∧
      ∀ earlier < first, ¬ m.Covers position text earlier byte := by
  classical
  have hexists : ∃ index, m.Covers position text index byte := ⟨index, hcovers⟩
  exact ⟨Nat.find hexists, Nat.find_min' hexists hcovers, Nat.find_spec hexists,
    fun earlier hearlier ↦ Nat.find_min hexists hearlier⟩

/-- Each byte of the match has the kind of the outermost group around it. -/
theorem Nests.kind_of_mem_groupTokens (hnests : m.Nests)
    (hfits : ∀ index first last, m.Spans index first last → last ≤ m.length)
    (htoken : token ∈ m.groupTokens kinds position text) (hstart : token.span.start ≤ byte)
    (hstop : byte < token.span.stop) :
    (∃ index, kinds[index]? = some token.kind ∧
      m.Outermost position text kinds.length byte index) ∨
    token.kind = .text ∧ ∀ index < kinds.length, ¬ m.Covers position text index byte := by
  rcases (mem_groupTokens_iff hfits).1 htoken with
    ⟨index, kind, first, last, hkind, howns, hspans, rfl⟩ | ⟨first, last, hgap, rfl⟩
  · have hlt := ((owns_iff hspans).1 howns).1
    rw [Token.slice_stop _ _ _ (Nat.le_of_lt hlt)] at hstop
    obtain ⟨outer, hle, hcovers, hfirst⟩ := exists_first_covers ⟨first, last, hspans, hstart, hstop⟩
    obtain ⟨houtermost, houter⟩ := hnests.outermost hcovers hfirst kinds.length
    rcases Nat.eq_or_lt_of_le hle with rfl | hbefore
    · exact .inl ⟨outer, hkind, houtermost⟩
    · obtain ⟨left, right, hleft, -, hright⟩ := hcovers
      have hbehind := ((owns_iff hspans).1 howns).2 outer hbefore houter left right hleft
      have hplace := Text.place_mono position text hbehind
      exact absurd (Nat.le_trans hplace hstart) (Nat.not_le_of_gt hright)
  · rw [Token.slice_stop _ _ _ (Nat.le_of_lt hgap.lt)] at hstop
    refine .inr ⟨rfl, ?_⟩
    intro index hindex hinside
    obtain ⟨outer, hle, hcovers, hfirst⟩ := exists_first_covers hinside
    have houter := (hnests.outermost hcovers hfirst kinds.length).2
    obtain ⟨left, right, hleft, hfrom, hto⟩ := hcovers
    rcases hgap.free outer (Nat.lt_of_le_of_lt hle hindex) houter left right hleft with
      hbefore | hbehind
    · have hplace := Text.place_mono position text hbefore
      exact absurd (Nat.le_trans hplace hstart) (Nat.not_le_of_gt hto)
    · have hplace := Text.place_mono position text hbehind
      exact absurd (Nat.le_trans hplace hfrom) (Nat.not_le_of_gt hstop)

end tokens

end Match

end LexTable
