import LexTable.Proofs.Pattern.Literals
import LexTable.Proofs.Regex.Captures

/-!
# The order of groups in a pattern

Groups are numbered where they are opened. A pattern in which nothing that holds a group is repeated
is read as an expression that enters its groups in the order of their numbers, each of them once.
-/

namespace LexTable

namespace Regex

theorem groups_seqAll (rs : List Regex) : (seqAll rs).groups = rs.flatMap groups := by
  induction rs with
  | nil => rfl
  | cons r rs ih =>
    cases rs with
    | nil => simp [seqAll]
    | cons s rs => exact congrArg (r.groups ++ ·) ih

theorem groups_altAll (rs : List Regex) : (altAll rs).groups = rs.flatMap groups := by
  induction rs with
  | nil => rfl
  | cons r rs ih =>
    cases rs with
    | nil => simp [altAll]
    | cons s rs => exact congrArg (r.groups ++ ·) ih

section repeated

variable {r : Regex} (greedy : Bool)

theorem groups_upTo (hr : r.groups = []) (n : Nat) : (upTo greedy r n).groups = [] := by
  fun_induction upTo greedy r n with
  | case1 => rfl
  | case2 => exact hr
  | case3 n hn ih => rw [groups, groups, hr, ih, List.append_nil]

theorem groups_atLeast (hr : r.groups = []) (n : Nat) : (atLeast greedy r n).groups = [] := by
  fun_induction atLeast greedy r n with
  | case1 => simp [groups, hr]
  | case2 => simp [groups, hr]
  | case3 => simp [groups, hr]
  | case4 n hn ih => rw [groups, hr, ih, List.append_nil]

theorem groups_between (hr : r.groups = []) (least most : Nat) :
    (between greedy r least most).groups = [] := by
  rw [between, groups_seqAll, List.flatMap_append, List.append_eq_nil_iff]
  constructor
  · simp [hr]
  · split
    · simp [groups_upTo greedy hr]
    · rfl

/-- Not more than one round has not more groups than the expression. -/
theorem groups_between_sublist {least most : Nat} (hleast : least ≤ 1) (hmost : most ≤ 1) :
    ((between greedy r least most).groups).Sublist r.groups := by
  rw [between, groups_seqAll]
  rcases Nat.le_one_iff_eq_zero_or_eq_one.1 hleast with rfl | rfl
  · rcases Nat.le_one_iff_eq_zero_or_eq_one.1 hmost with rfl | rfl
    · exact List.nil_sublist _
    · simp [upTo, groups]
  · simp [Nat.not_lt_of_le hmost]

theorem groups_repeated_sublist {least : Nat} {most : Option Nat}
    (honce : r.groups = [] ∨ least ≤ 1 ∧ ∃ limit ≤ 1, most = some limit) :
    ((r.repeated greedy least most).groups).Sublist r.groups := by
  rcases honce with hr | ⟨hleast, limit, hlimit, rfl⟩
  · have hnone : (r.repeated greedy least most).groups = [] := by
      unfold repeated
      split
      · exact groups_between greedy hr _ _
      · split
        · exact groups_atLeast greedy hr _
        · exact groups_between greedy hr _ _
    rw [hnone]
    exact List.nil_sublist _
  · unfold repeated
    split
    · exact groups_between_sublist greedy (Nat.min_le_right _ _) (Nat.min_le_left _ _)
    · exact groups_between_sublist greedy hleast hlimit

end repeated

end Regex

namespace Pattern

/-- The groups of an alternation that is being read. -/
def Branches.groups (b : Branches) : List Nat :=
  b.finished.reverse.flatMap Regex.groups ++ b.items.flatMap Regex.groups

theorem Branches.groups_regex (b : Branches) : b.regex.groups = b.groups := by
  rw [regex_eq, Regex.groups_altAll, List.flatMap_append, List.flatMap_singleton, branch_eq,
    Regex.groups_seqAll, groups]

theorem Branches.groups_add (b : Branches) (r : Regex) :
    (b.add r).groups = b.groups ++ r.groups := by
  have hitems : (b.add r).items = b.items ++ [r] := by simp [items, add]
  have hfinished : (b.add r).finished = b.finished := rfl
  rw [groups, groups, hitems, hfinished, List.flatMap_append, List.flatMap_singleton,
    List.append_assoc]

theorem Branches.groups_bar (b : Branches) : b.bar.groups = b.groups := by
  rw [groups, finished_bar, items_bar, List.reverse_cons, List.flatMap_append,
    List.flatMap_singleton, List.flatMap_nil, List.append_nil, branch_eq, Regex.groups_seqAll,
    groups]

theorem Branches.groups_settle (b : Branches) : b.settle.groups = b.groups := by
  have hitems : b.settle.items = b.items := by simp [items, settle]
  have hfinished : b.settle.finished = b.finished := rfl
  rw [groups, hitems, hfinished, groups]

/-- Putting the last item in another form does not touch the groups before it. -/
theorem Branches.groups_last (b : Branches) {r s : Regex} (hlast : b.last = some r)
    (hgroups : s.groups.Sublist r.groups) :
    (Branches.groups { b with last := some s }).Sublist b.groups := by
  have hitems : b.items = b.before.reverse ++ [r] := by simp [items, hlast]
  have hinstead : Branches.items { b with last := some s } = b.before.reverse ++ [s] := by
    simp [items]
  rw [groups, groups, hitems, hinstead, List.flatMap_append, List.flatMap_append,
    List.flatMap_singleton, List.flatMap_singleton]
  exact (hgroups.append_left _).append_left _

namespace State

/-- The groups before and in the groups that are open. -/
def outerGroups : List Frame → List Nat
  | [] => []
  | frame :: frames => outerGroups frames ++ (frame.outer.groups ++ frame.index.toList)

/-- All groups so far, in the order of the pattern. -/
def allGroups (state : State) : List Nat :=
  outerGroups state.frames ++ state.here.groups

/-- The groups so far come in the order of their numbers. -/
structure Numbered (state : State) : Prop where
  order : (0 :: state.allGroups).Pairwise (· < ·)
  le : ∀ i ∈ state.allGroups, i ≤ state.groups

theorem Numbered.of_sublist {state after : State} (hstate : state.Numbered)
    (hall : after.allGroups.Sublist state.allGroups) (hgroups : after.groups = state.groups) :
    after.Numbered where
  order := hstate.order.sublist (hall.cons_cons 0)
  le i hi := by
    rw [hgroups]
    exact hstate.le i (hall.subset hi)

theorem Numbered.of_eq {state after : State} (hstate : state.Numbered)
    (hall : after.allGroups = state.allGroups) (hgroups : after.groups = state.groups) :
    after.Numbered :=
  hstate.of_sublist (hall ▸ .refl _) hgroups

theorem allGroups_add (state : State) (r : Regex) :
    (state.add r).allGroups = state.allGroups ++ r.groups := by
  rw [allGroups, allGroups, List.append_assoc, ← Branches.groups_add]
  rfl

theorem Numbered.add {state : State} (hstate : state.Numbered) {r : Regex} (hr : r.groups = []) :
    (state.add r).Numbered := by
  refine hstate.of_eq ?_ rfl
  rw [allGroups_add, hr, List.append_nil]

theorem Numbered.member {state : State} (hstate : state.Numbered) (s : CharSet) :
    (state.member s).Numbered := by
  unfold State.member
  split
  · exact hstate.add rfl
  · exact hstate.of_eq rfl rfl

/-- A group that is opened has the highest number so far. -/
theorem Numbered.capture {state after : State} (hstate : state.Numbered)
    {name : Option (List Char)} (hafter : state.capture name = .ok after) : after.Numbered := by
  unfold State.capture at hafter
  split at hafter
  · cases hafter
  obtain rfl := Except.ok.inj hafter
  have hall : outerGroups state.frames ++ (state.here.groups ++ [state.groups + 1]) ++ [] =
      state.allGroups ++ [state.groups + 1] := by
    rw [List.append_nil, allGroups, List.append_assoc]
  constructor
  · change (0 :: (outerGroups state.frames ++ (state.here.groups ++ [state.groups + 1]) ++
      [])).Pairwise (· < ·)
    rw [hall, ← List.cons_append, List.pairwise_append]
    refine ⟨hstate.order, List.pairwise_singleton _ _, ?_⟩
    intro i hi j hj
    rw [List.mem_singleton.1 hj, Nat.lt_succ_iff]
    rcases List.mem_cons.1 hi with rfl | hi
    · exact Nat.zero_le _
    · exact hstate.le i hi
  · change ∀ i ∈ outerGroups state.frames ++ (state.here.groups ++ [state.groups + 1]) ++ [],
      i ≤ state.groups + 1
    rw [hall]
    intro i hi
    rcases List.mem_append.1 hi with hi | hi
    · exact Nat.le_succ_of_le (hstate.le i hi)
    · exact Nat.le_of_eq (List.mem_singleton.1 hi)

theorem Numbered.openPlain {state : State} (hstate : state.Numbered)
    (flags : Flags) : Numbered { state.openGroup none with flags := flags } := by
  refine hstate.of_eq ?_ rfl
  change outerGroups state.frames ++ (state.here.groups ++ []) ++ [] = state.allGroups
  rw [List.append_nil, List.append_nil, allGroups]

theorem Numbered.closeGroup {state after : State} (hstate : state.Numbered)
    (hafter : state.closeGroup = .ok after) : after.Numbered := by
  unfold State.closeGroup at hafter
  split at hafter
  · cases hafter
  · next frame frames hframes =>
    obtain rfl := Except.ok.inj hafter
    refine hstate.of_eq ?_ rfl
    have hinner : (frame.index.elim state.here.regex fun i ↦ .group i state.here.regex).groups =
        frame.index.toList ++ state.here.groups := by
      rw [← Branches.groups_regex]
      cases frame.index with
      | none => rfl
      | some i => rfl
    change outerGroups frames ++ Branches.groups (frame.outer.add _) = _
    rw [Branches.groups_add, hinner, allGroups, hframes, outerGroups]
    simp only [List.append_assoc]

theorem Numbered.repetition {state after : State} (hstate : state.Numbered) {least : Nat}
    {most : Option Nat} {greedy : Bool}
    (honce : ∀ r ∈ state.here.last, r.groups = [] ∨ least ≤ 1 ∧ ∃ limit ≤ 1, most = some limit)
    (hafter : state.repetition least most greedy = .ok after) : after.Numbered := by
  unfold State.repetition at hafter
  split at hafter
  · cases hafter
  · next r hlast =>
    obtain rfl := Except.ok.inj hafter
    refine hstate.of_sublist ?_ rfl
    have hgroups := Regex.groups_repeated_sublist greedy (honce r hlast)
    exact (state.here.groups_last hlast hgroups).append_left _

end State

/-- If the symbol is a repetition, the item before it holds no group or goes round at most once. -/
def Symbol.KeepsGroups (state : State) (symbol : Symbol) : Prop :=
  ∀ least most greedy, symbol = .repetition least most greedy →
    ∀ r ∈ state.here.last, r.groups = [] ∨ least ≤ 1 ∧ ∃ limit ≤ 1, most = some limit

theorem State.Numbered.read {state after : State} {symbol : Symbol} (hstate : state.Numbered)
    (hkeeps : symbol.KeepsGroups state) (hafter : state.read symbol = .ok after) :
    after.Numbered := by
  cases symbol with
  | literal c | dot | caret | dollar | look l | set s =>
    obtain rfl := Except.ok.inj hafter
    exact hstate.add rfl
  | openCapture name => exact hstate.capture hafter
  | openPlain changes =>
    obtain rfl := Except.ok.inj hafter
    exact hstate.openPlain _
  | close => exact hstate.closeGroup hafter
  | bar =>
    obtain rfl := Except.ok.inj hafter
    exact hstate.of_eq (congrArg (outerGroups state.frames ++ ·) state.here.groups_bar) rfl
  | flags changes =>
    obtain rfl := Except.ok.inj hafter
    exact hstate.of_eq (congrArg (outerGroups state.frames ++ ·) state.here.groups_settle) rfl
  | repetition least most greedy => exact hstate.repetition (hkeeps _ _ _ rfl) hafter
  | openClass negated members =>
    obtain rfl := Except.ok.inj hafter
    exact hstate.of_eq rfl rfl
  | member s =>
    obtain rfl := Except.ok.inj hafter
    exact hstate.member s
  | setOp op =>
    obtain rfl := Except.ok.inj hafter
    unfold State.setOp
    split
    · exact hstate
    · exact hstate.of_eq rfl rfl
  | closeClass =>
    change state.closeClass = _ at hafter
    unfold State.closeClass at hafter
    split at hafter
    · cases hafter
    · next frame frames hclasses =>
      obtain rfl := Except.ok.inj hafter
      have hopen : Numbered { state with classes := frames } := hstate.of_eq rfl rfl
      exact hopen.member _

theorem State.Numbered.foldlM_read {state after : State} {symbols : List Symbol}
    (hstate : state.Numbered)
    (hkeeps : ∀ earlier symbol later, symbols = earlier ++ symbol :: later →
      ∀ middle, earlier.foldlM State.read state = .ok middle → symbol.KeepsGroups middle)
    (hafter : symbols.foldlM State.read state = .ok after) : after.Numbered := by
  induction symbols generalizing state with
  | nil =>
    obtain rfl := Except.ok.inj hafter
    exact hstate
  | cons symbol symbols ih =>
    rw [List.foldlM_cons] at hafter
    rcases hread : state.read symbol with error | next
    · rw [hread] at hafter
      cases hafter
    · rw [hread] at hafter
      apply ih (hstate.read (hkeeps [] symbol symbols rfl state rfl) hread) _ hafter
      rintro earlier other later rfl middle hmiddle
      apply hkeeps (symbol :: earlier) other later rfl middle
      rw [List.foldlM_cons, hread]
      exact hmiddle

/-- Nothing in the pattern that holds a group is repeated, though it may be optional. -/
def RepeatsNoGroup (flags : Flags) (pattern : List Char) : Prop :=
  ∀ earlier symbol later, scan pattern = .ok (earlier ++ symbol :: later) →
    ∀ state, earlier.foldlM State.read { flags } = .ok state → symbol.KeepsGroups state

theorem ordered_of_parse {flags : Flags} {pattern : List Char} {r : Regex}
    (hparse : parse flags pattern = .ok r) (hrepeats : RepeatsNoGroup flags pattern) :
    r.Ordered := by
  unfold parse at hparse
  rcases hscan : scan pattern with error | symbols
  · rw [hscan] at hparse
    cases hparse
  rw [hscan] at hparse
  change (symbols.foldlM State.read { flags } >>= State.finish) = _ at hparse
  rcases hread : symbols.foldlM State.read { flags } with error | state
  · rw [hread] at hparse
    cases hparse
  rw [hread] at hparse
  have hstart : State.Numbered { flags } :=
    ⟨List.pairwise_singleton _ _, fun i hi ↦ absurd hi List.not_mem_nil⟩
  have hnumbered : state.Numbered := by
    apply hstart.foldlM_read _ hread
    rintro earlier symbol later rfl
    exact hrepeats earlier symbol later hscan
  change state.finish = _ at hparse
  unfold State.finish at hparse
  split at hparse
  · cases hparse
  split at hparse
  · cases hparse
  · next hframes =>
    obtain rfl := Except.ok.inj hparse
    have hnone : state.frames = [] := by simpa using hframes
    have horder := hnumbered.order
    rw [State.allGroups, hnone] at horder
    rw [Regex.Ordered, Branches.groups_regex]
    exact horder

end Pattern

end LexTable
