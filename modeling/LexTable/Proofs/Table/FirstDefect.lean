import LexTable.Proofs.Table.Acceptance
import LexTable.Proofs.Table.Defects

/-!
# The first defect is reported

Building a lexer goes through checks one after the other and gives up at the first that fails. So
its error is the defect with the lowest rank, whatever else is wrong with the table. The proof
follows the way in which the checks are put together: a check after another ranks all of its
defects behind those of the other.
-/

namespace LexTable

open Lexer

/-- Errors by their ranks. -/
abbrev Ranked := List Nat → LexError → Prop

namespace Ranked

/-- The defects of one part, as defects of the whole. -/
def under (index : Nat) (D : Ranked) : Ranked := fun rank error ↦
  ∃ rest, rank = index :: rest ∧ D rest error

def or (D E : Ranked) : Ranked := fun rank error ↦
  D rank error ∨ E rank error

/-- The defects of list members, the first of which has the number `start`. -/
def numbered {α : Type} (D : Nat → α → Ranked) (start : Nat) (xs : List α) : Ranked :=
  fun rank error ↦ ∃ index x, xs[index]? = some x ∧ under (start + index) (D (start + index) x)
    rank error

/-- All defects are of later parts. -/
def Beyond (index : Nat) (D : Ranked) : Prop :=
  ∀ rank error, D rank error → ∃ later rest, rank = later :: rest ∧ index < later

/-- The error is the only one at its rank, and all others are behind it. -/
def First (D : Ranked) (error : LexError) : Prop :=
  ∃ rank, D rank error ∧ ∀ other instead, D other instead →
    rank < other ∨ rank = other ∧ error = instead

/-- A check succeeds if there is no defect and fails with the first one otherwise. -/
def Reports {α : Type} (D : Ranked) : Except LexError α → Prop
  | .ok _ => ∀ rank error, ¬ D rank error
  | .error error => First D error

variable {D E : Ranked} {index : Nat} {error : LexError}

theorem beyond_under {later : Nat} (hlt : index < later) : Beyond index (under later D) := by
  rintro rank error ⟨rest, rfl, -⟩
  exact ⟨later, rest, rfl, hlt⟩

theorem Beyond.or (hD : Beyond index D) (hE : Beyond index E) : Beyond index (or D E) := by
  intro rank error hor
  rcases hor with hdefect | hdefect
  · exact hD rank error hdefect
  · exact hE rank error hdefect

theorem beyond_numbered {α : Type} {D : Nat → α → Ranked} {start : Nat} (xs : List α)
    (hlt : index < start) : Beyond index (numbered D start xs) := by
  rintro rank error ⟨number, x, -, hunder⟩
  exact beyond_under (by omega) rank error hunder

theorem numbered_nil {α : Type} {D : Nat → α → Ranked} {start : Nat} {rank : List Nat} :
    ¬ numbered D start [] rank error := by
  rintro ⟨number, x, hx, -⟩
  cases hx

theorem numbered_cons {α : Type} {D : Nat → α → Ranked} {start : Nat} {x : α} {xs : List α}
    {rank : List Nat} : or (under start (D start x)) (numbered D (start + 1) xs) rank error ↔
      numbered D start (x :: xs) rank error := by
  constructor
  · intro hor
    rcases hor with hhead | ⟨number, y, hy, htail⟩
    · exact ⟨0, x, rfl, hhead⟩
    · rw [Nat.add_right_comm, Nat.add_assoc] at htail
      exact ⟨number + 1, y, hy, htail⟩
  · rintro ⟨number, y, hy, hunder⟩
    cases number with
    | zero =>
      obtain rfl := Option.some.inj hy
      exact .inl hunder
    | succ number =>
      rw [← Nat.add_assoc, Nat.add_right_comm] at hunder
      exact .inr ⟨number, y, hy, hunder⟩

theorem First.under (hfirst : First D error) (index : Nat) : First (under index D) error := by
  obtain ⟨rank, hdefect, hothers⟩ := hfirst
  refine ⟨index :: rank, ⟨rank, rfl, hdefect⟩, ?_⟩
  rintro other instead ⟨rest, rfl, hother⟩
  rcases hothers rest instead hother with hlt | ⟨rfl, rfl⟩
  · exact .inl (List.cons_lt_cons_self.2 hlt)
  · exact .inr ⟨rfl, rfl⟩

theorem First.or_left (hfirst : First D error) (hE : Beyond index E) :
    First (or (Ranked.under index D) E) error := by
  obtain ⟨rank, hdefect, hothers⟩ := hfirst.under index
  refine ⟨rank, .inl hdefect, ?_⟩
  intro other instead hor
  rcases hor with hother | hother
  · exact hothers other instead hother
  · obtain ⟨rest, rfl, -⟩ := hdefect
    obtain ⟨later, more, rfl, hlt⟩ := hE other instead hother
    exact .inl (List.cons_lt_cons_iff.2 (.inl hlt))

theorem First.or_right (hnone : ∀ rank error, ¬ D rank error) (hfirst : First E error) :
    First (or (Ranked.under index D) E) error := by
  obtain ⟨rank, hdefect, hothers⟩ := hfirst
  refine ⟨rank, .inr hdefect, ?_⟩
  intro other instead hor
  rcases hor with ⟨rest, -, hother⟩ | hother
  · exact absurd hother (hnone rest instead)
  · exact hothers other instead hother

namespace Reports

variable {α β : Type} {x : Except LexError α}

theorem congr (hx : Reports D x) (hsame : ∀ rank error, D rank error ↔ E rank error) :
    Reports E x := by
  have heq : D = E := by
    funext rank error
    exact propext (hsame rank error)
  rwa [← heq]

theorem none (hnone : ∀ rank error, ¬ D rank error) (a : α) : Reports D (.ok a) :=
  hnone

/-- Going on without a check changes nothing. -/
theorem map (hx : Reports D x) (f : α → β) :
    Reports D (x >>= fun a ↦ (.ok (f a) : Except LexError β)) := by
  cases x with
  | ok a => exact hx
  | error error => exact hx

/-- A check, and after it one whose defects are of later parts. -/
theorem bind {f : α → Except LexError β} (hx : Reports D x) (hE : Beyond index E)
    (hf : ∀ a, x = .ok a → Reports E (f a)) : Reports (or (under index D) E) (x >>= f) := by
  cases x with
  | error error => exact First.or_left hx hE
  | ok a =>
    have hnext := hf a rfl
    change Reports _ (f a)
    cases hresult : f a with
    | error error =>
      rw [hresult] at hnext
      exact First.or_right hx hnext
    | ok b =>
      rw [hresult] at hnext
      rintro rank error (⟨rest, -, hdefect⟩ | hdefect)
      · exact hx rest error hdefect
      · exact hnext rank error hdefect

theorem mapM {D : Nat → α → Ranked} {f : α → Except LexError β} {xs : List α} {start : Nat}
    (hf : ∀ number x, xs[number]? = some x → Reports (D (start + number) x) (f x)) :
    Reports (numbered D start xs) (xs.mapM f) := by
  induction xs generalizing start with
  | nil => exact none (fun _ _ ↦ numbered_nil) []
  | cons x xs ih =>
    rw [List.mapM_cons]
    have hrest : Reports (numbered D (start + 1) xs) (xs.mapM f) := by
      apply ih
      intro number y hy
      have hreports := hf (number + 1) y hy
      rwa [← Nat.add_assoc, Nat.add_right_comm] at hreports
    exact ((hf 0 x rfl).bind (beyond_numbered xs (Nat.lt_succ_self start))
      fun y _ ↦ hrest.map (y :: ·)).congr fun _ _ ↦ numbered_cons

theorem under (hx : Reports D x) (index : Nat) : Reports (under index D) x := by
  cases x with
  | error error => exact First.under hx index
  | ok a =>
    rintro rank error ⟨rest, -, hdefect⟩
    exact hx rest error hdefect

/-- A part in which nothing can be wrong is passed over. -/
theorem skip (hnone : ∀ rank error, ¬ D rank error) (hx : Reports E x) :
    Reports (or (Ranked.under index D) E) x := by
  cases x with
  | error error => exact First.or_right hnone hx
  | ok a =>
    rintro rank error (⟨rest, -, hdefect⟩ | hdefect)
    · exact hnone rest error hdefect
    · exact hx rank error hdefect

end Reports

end Ranked

namespace RuleTable

open Ranked

/-- The defects of the entries that the expansion of `state` meets, by the path and then the check
that leads to them. -/
def found (table : RuleTable) (P : List String → Location → Entry → Nat → LexError → Prop)
    (around : List String) (state : StateEntry) : Ranked := fun rank error ↦
  ∃ path inner location entry check, rank = path ++ [check] ∧
    table.Meets around state path inner location entry ∧ P inner location entry check error

/-- The same from one entry of the state `name` on, whose number has been taken off. -/
def foundAt (table : RuleTable) (P : List String → Location → Entry → Nat → LexError → Prop)
    (around : List String) (name : String) (index : Nat) (entry : Entry) : Ranked :=
  fun rank error ↦
    (∃ check, rank = [check] ∧ P around (.entry name index) entry check error) ∨
      ∃ target next, entry = .splice target ∧ table.find? target = some next ∧ target ∉ around ∧
        table.found P (target :: around) next rank error

section found

variable {table : RuleTable} {P : List String → Location → Entry → Nat → LexError → Prop}
  {around : List String} {rank : List Nat} {error : LexError}

theorem numbered_foundAt {state : StateEntry} :
    numbered (table.foundAt P around state.name) 0 state.entries rank error ↔
      table.found P around state rank error := by
  constructor
  · rintro ⟨index, entry, hentry, rest, rfl, hat⟩
    rw [Nat.zero_add] at hat ⊢
    rcases hat with ⟨check, rfl, hdefect⟩ | ⟨target, next, rfl, hfind, hfresh, hnext⟩
    · exact ⟨[index], around, _, entry, check, rfl, .own hentry, hdefect⟩
    · obtain ⟨path, inner, location, entry, check, rfl, hmeets, hdefect⟩ := hnext
      exact ⟨index :: path, inner, location, entry, check, rfl,
        .spliced hentry hfind hfresh hmeets, hdefect⟩
  · rintro ⟨path, inner, location, entry, check, rfl, hmeets, hdefect⟩
    cases hmeets with
    | @own _ _ index _ hentry =>
      refine ⟨index, entry, hentry, [check], by simp, ?_⟩
      rw [Nat.zero_add]
      exact .inl ⟨check, rfl, hdefect⟩
    | @spliced _ _ _ next index path _ _ target hentry hfind hfresh hmeets =>
      exact ⟨index, .splice target, hentry, path ++ [check], by simp,
        .inr ⟨target, next, rfl, hfind, hfresh, path, inner, location, entry, check, rfl, hmeets,
          hdefect⟩⟩

theorem foundAt_rule {name : String} {index : Nat} {rule : Rule} :
    table.foundAt P around name index (.rule rule) rank error ↔
      ∃ check, rank = [check] ∧ P around (.entry name index) (.rule rule) check error := by
  constructor
  · rintro (hown | ⟨target, next, hentry, -⟩)
    · exact hown
    · cases hentry
  · exact .inl

/-- Where nothing is wrong with an entry itself, all defects are those of the state it splices. -/
theorem foundAt_splice {name target : String} {index : Nat} {next : StateEntry}
    (hfind : table.find? target = some next) (hfresh : target ∉ around)
    (hnone : ∀ check error, ¬ P around (.entry name index) (.splice target) check error) :
    table.found P (target :: around) next rank error ↔
      table.foundAt P around name index (.splice target) rank error := by
  constructor
  · intro hnext
    exact .inr ⟨target, next, rfl, hfind, hfresh, hnext⟩
  · rintro (⟨check, -, hdefect⟩ | ⟨other, instead, hentry, hother, -, hnext⟩)
    · exact absurd hdefect (hnone check error)
    · obtain rfl := Entry.splice.inj hentry
      obtain rfl := Option.some.inj (hfind.symm.trans hother)
      exact hnext

end found

end RuleTable

namespace Lexer

open RuleTable Ranked

section splicing

variable {table : RuleTable} {around : List String}

/-- That a state is missing is found before that it is entered again. -/
theorem first_undefined {name target : String} {index : Nat} (hfind : table.find? target = none) :
    First (table.foundAt table.SpliceDefect around name index (.splice target))
      ⟨.undefinedState target, .entry name index⟩ := by
  have htarget : target ∉ table.names := by
    rw [← exists_find?_iff, hfind]
    simp
  refine ⟨[0], .inl ⟨0, rfl, .undefined htarget⟩, ?_⟩
  rintro other instead (⟨check, rfl, hdefect⟩ | ⟨_, next, hentry, hnext, -⟩)
  · cases hdefect with
    | undefined => exact .inr ⟨rfl, rfl⟩
    | cycle => exact .inl (by decide)
  · obtain rfl := Entry.splice.inj hentry
    rw [hfind] at hnext
    cases hnext

theorem first_cycle {name target : String} {index : Nat} {next : StateEntry}
    (hfind : table.find? target = some next) (hmem : target ∈ around) :
    First (table.foundAt table.SpliceDefect around name index (.splice target))
      ⟨.includeCycle target, .state target⟩ := by
  refine ⟨[1], .inl ⟨1, rfl, .cycle hmem⟩, ?_⟩
  rintro other instead (⟨check, rfl, hdefect⟩ | ⟨_, _, hentry, -, hfresh, -⟩)
  · cases hdefect with
    | undefined htarget => exact absurd (exists_find?_iff.1 ⟨next, hfind⟩) htarget
    | cycle => exact .inr ⟨rfl, rfl⟩
  · obtain rfl := Entry.splice.inj hentry
    exact absurd hmem hfresh

theorem reports_spliceEntries
    (hinner : ∀ next : { state // state ∈ table }, next.val.name ∉ around →
      Reports (table.found table.SpliceDefect (next.val.name :: around) next)
        (spliceEntries table (next.val.name :: around) next.val.name 0 next.val.entries))
    (name : String) (index : Nat) (entries : List Entry) :
    Reports (numbered (table.foundAt table.SpliceDefect around name) index entries)
      (spliceEntries table around name index entries) := by
  induction entries generalizing index with
  | nil =>
    rw [spliceEntries_nil]
    exact .none (fun _ _ ↦ numbered_nil) []
  | cons entry entries ih =>
    apply Reports.congr _ fun _ _ ↦ numbered_cons
    have hbeyond := beyond_numbered (D := table.foundAt table.SpliceDefect around name) entries
      (Nat.lt_succ_self index)
    cases entry with
    | rule rule =>
      rw [spliceEntries]
      apply Reports.skip _ ((ih (index + 1)).map _)
      intro rank error hat
      obtain ⟨check, -, hdefect⟩ := foundAt_rule.1 hat
      cases hdefect
    | splice target =>
      rw [spliceEntries]
      split
      · next hfind => exact First.or_left (first_undefined hfind) hbeyond
      · next next hfind =>
        obtain rfl : next.name = target := name_of_find?_eq_some hfind
        apply Reports.bind _ hbeyond fun spliced _ ↦ (ih (index + 1)).map _
        rw [splice]
        split
        · next hmem => exact first_cycle hfind hmem
        · next hfresh =>
          apply (hinner ⟨next, mem_of_find?_eq_some hfind⟩ hfresh).congr
          intro rank error
          apply foundAt_splice hfind hfresh
          intro check error hdefect
          cases hdefect with
          | undefined htarget => exact htarget (exists_find?_iff.1 ⟨next, hfind⟩)
          | cycle hmem => exact hfresh hmem

/-- Splicing ends, so its report for a state rests on those for the states inside of it. -/
theorem reports_splice (state : { state // state ∈ table }) (hfresh : state.val.name ∉ around) :
    Reports (table.found table.SpliceDefect (state.val.name :: around) state)
      (spliceEntries table (state.val.name :: around) state.val.name 0 state.val.entries) := by
  induction around using chainInduction table generalizing state with
  | step around ih =>
    apply Reports.congr _ fun _ _ ↦ numbered_foundAt
    apply reports_spliceEntries
    intro next hnext
    exact ih state.val state.property hfresh next hnext

end splicing

section rules

variable {table : RuleTable} {reader : PatternReader} {around : List String} {location : Location}

/-- What a single check of a rule finds. -/
def ruleCheck (table : RuleTable) (reader : PatternReader) (location : Location)
    (rule : LexTable.Rule) (check : Nat) : Ranked := fun rank error ↦
  rank = [] ∧ table.RuleDefect reader location (.rule rule) check error

theorem first_ruleCheck {rule : LexTable.Rule} {check : Nat} {error : LexError}
    (hdefect : table.RuleDefect reader location (.rule rule) check error)
    (hunique : ∀ other, table.RuleDefect reader location (.rule rule) check other →
      error = other) :
    First (ruleCheck table reader location rule check) error := by
  refine ⟨[], ⟨rfl, hdefect⟩, ?_⟩
  rintro other instead ⟨rfl, hother⟩
  exact .inr ⟨rfl, hunique instead hother⟩

theorem reports_readPattern (rule : LexTable.Rule) :
    Reports (ruleCheck table reader location rule 0)
      (readPattern reader rule.pattern location) := by
  unfold readPattern
  cases hread : reader rule.pattern with
  | ok regex =>
    rintro rank error ⟨-, hdefect⟩
    cases hdefect with
    | pattern hpattern =>
      rw [hread] at hpattern
      cases hpattern
  | error message =>
    apply first_ruleCheck (.pattern hread)
    intro other hother
    cases hother with
    | pattern hpattern =>
      obtain rfl := Except.error.inj (hread.symm.trans hpattern)
      rfl

theorem reports_checkGroups {rule : LexTable.Rule} {regex : Regex}
    (hregex : reader rule.pattern = .ok regex) :
    Reports (ruleCheck table reader location rule 1)
      (checkGroups rule.pattern rule.action regex.groupCount location) := by
  cases haction : rule.action with
  | token kind =>
    rintro rank error ⟨-, hdefect⟩
    cases hdefect with
    | groups hkinds =>
      rw [haction] at hkinds
      cases hkinds
  | byGroups kinds =>
    unfold checkGroups
    dsimp only
    split
    · next hbad =>
      apply first_ruleCheck (.groups haction hregex (by simpa using hbad))
      intro other hother
      cases hother with
      | groups hkinds hother =>
        obtain rfl := Action.byGroups.inj (haction.symm.trans hkinds)
        obtain rfl := Except.ok.inj (hregex.symm.trans hother)
        rfl
    · next hgood =>
      rintro rank error ⟨-, hdefect⟩
      cases hdefect with
      | groups hkinds hother hcount =>
        obtain rfl := Action.byGroups.inj (haction.symm.trans hkinds)
        obtain rfl := Except.ok.inj (hregex.symm.trans hother)
        exact hgood (by simpa using hcount)

theorem reports_checkTransition (rule : LexTable.Rule) :
    Reports (ruleCheck table reader location rule 2)
      (checkTransition table rule.next location) := by
  unfold checkTransition
  split
  · next target hnext =>
    split
    · next hmem =>
      rintro rank error ⟨-, hdefect⟩
      cases hdefect with
      | push hpush htarget =>
        rw [hnext] at hpush
        cases hpush
        exact htarget (List.contains_iff_mem.1 hmem)
    · next hmem =>
      apply first_ruleCheck (.push hnext (mt List.contains_iff_mem.2 hmem))
      intro other hother
      cases hother with
      | push hpush =>
        rw [hnext] at hpush
        cases hpush
        rfl
  · next hnext =>
    rintro rank error ⟨-, hdefect⟩
    cases hdefect with
    | push hpush => exact hnext _ hpush

theorem reports_readRule (rule : LexTable.Rule) :
    Reports (fun rank error ↦ ∃ check, rank = [check] ∧
      table.RuleDefect reader location (.rule rule) check error)
      (readRule reader table ⟨rule, location⟩) := by
  have hreports : Reports (or (under 0 (ruleCheck table reader location rule 0))
      (or (under 1 (ruleCheck table reader location rule 1))
        (under 2 (ruleCheck table reader location rule 2))))
      (readRule reader table ⟨rule, location⟩) := by
    have hlast := beyond_under (D := ruleCheck table reader location rule 2) Nat.one_lt_two
    apply (reports_readPattern rule).bind ((beyond_under Nat.zero_lt_one).or
      (beyond_under Nat.zero_lt_two))
    intro regex hregex
    apply (reports_checkGroups (readPattern_eq_ok_iff.1 hregex)).bind hlast
    intro _ _
    exact ((reports_checkTransition rule).map _).under 2
  apply hreports.congr
  intro rank error
  constructor
  · rintro (⟨_, rfl, rfl, hdefect⟩ | ⟨_, rfl, rfl, hdefect⟩ | ⟨_, rfl, rfl, hdefect⟩)
    · exact ⟨0, rfl, hdefect⟩
    · exact ⟨1, rfl, hdefect⟩
    · exact ⟨2, rfl, hdefect⟩
  · rintro ⟨check, rfl, hdefect⟩
    cases hdefect with
    | pattern hpattern => exact .inl ⟨[], rfl, rfl, .pattern hpattern⟩
    | groups haction hregex hcount =>
      exact .inr (.inl ⟨[], rfl, rfl, .groups haction hregex hcount⟩)
    | push hnext htarget => exact .inr (.inr ⟨[], rfl, rfl, .push hnext htarget⟩)

/-- The rules of entries are read in the order in which expansion meets them. -/
theorem reports_mapM_readRule
    (hinner : ∀ next placed, splice table around next = .ok placed →
      Reports (table.found (fun _ ↦ table.RuleDefect reader) (next.val.name :: around) next)
        (placed.mapM (readRule reader table)))
    {name : String} {index : Nat} {entries : List Entry} {placed : List PlacedRule}
    (hplaced : spliceEntries table around name index entries = .ok placed) :
    Reports (numbered (table.foundAt (fun _ ↦ table.RuleDefect reader) around name) index entries)
      (placed.mapM (readRule reader table)) := by
  induction entries generalizing index placed with
  | nil =>
    rw [spliceEntries_nil] at hplaced
    obtain rfl := Except.ok.inj hplaced
    exact .none (fun _ _ ↦ numbered_nil) []
  | cons entry entries ih =>
    apply Reports.congr _ fun _ _ ↦ numbered_cons
    have hbeyond := beyond_numbered
      (D := table.foundAt (fun _ ↦ table.RuleDefect reader) around name) entries
      (Nat.lt_succ_self index)
    cases entry with
    | rule rule =>
      obtain ⟨rules, hrules, rfl⟩ := spliceEntries_rule_eq_ok_iff.1 hplaced
      have hown : Reports
          (table.foundAt (fun _ ↦ table.RuleDefect reader) around name index (.rule rule))
          (readRule reader table ⟨rule, .entry name index⟩) :=
        (reports_readRule rule).congr fun _ _ ↦
          (foundAt_rule (P := fun _ ↦ table.RuleDefect reader)).symm
      rw [List.mapM_cons]
      exact hown.bind hbeyond fun ready _ ↦ (ih hrules).map _
    | splice target =>
      obtain ⟨next, hfind, spliced, rules, hspliced, hrules, rfl⟩ :=
        spliceEntries_splice_eq_ok_iff.1 hplaced
      obtain rfl : next.name = target := name_of_find?_eq_some hfind
      rw [List.mapM_append]
      apply Reports.bind _ hbeyond fun ready _ ↦ (ih hrules).map _
      apply (hinner _ spliced hspliced).congr
      intro rank error
      apply foundAt_splice hfind (splice_eq_ok_iff.1 hspliced).1
      intro check error hdefect
      cases hdefect

theorem reports_rules {state : { state // state ∈ table }} {placed : List PlacedRule}
    (hplaced : splice table around state = .ok placed) :
    Reports (table.found (fun _ ↦ table.RuleDefect reader) (state.val.name :: around) state)
      (placed.mapM (readRule reader table)) := by
  induction around using chainInduction table generalizing state placed with
  | step around ih =>
    obtain ⟨hfresh, hentries⟩ := splice_eq_ok_iff.1 hplaced
    apply Reports.congr _ fun _ _ ↦ numbered_foundAt
    apply reports_mapM_readRule _ hentries
    intro next spliced hspliced
    exact ih state.val state.property hfresh hspliced

end rules

/-- What is wrong with a state: its splicing, then its rules. -/
def stateDefects (table : RuleTable) (reader : PatternReader) (state : StateEntry) : Ranked :=
  or (under 0 (table.found table.SpliceDefect [state.name] state))
    (under 1 (table.found (fun _ ↦ table.RuleDefect reader) [state.name] state))

theorem reports_readState {table : RuleTable} {reader : PatternReader}
    (state : { state // state ∈ table }) :
    Reports (stateDefects table reader state) (readState reader table state) := by
  have hsplice : Reports (table.found table.SpliceDefect [state.val.name] state)
      (splice table [] state) := by
    rw [splice, dif_neg List.not_mem_nil]
    exact reports_splice state List.not_mem_nil
  apply hsplice.bind (beyond_under Nat.zero_lt_one)
  intro placed hplaced
  exact ((reports_rules hplaced).map _).under 1

/-- The places of names that have occurred before. -/
def repeatedNames (names : List String) : Ranked := fun rank error ↦
  ∃ index name, rank = [index] ∧ names[index]? = some name ∧ name ∈ names.take index ∧
    error = ⟨.duplicateState name, .state name⟩

theorem exists_index_of_firstRepeated {seen names : List String} {name : String}
    (hrepeated : firstRepeated seen names = some name) : ∃ index, names[index]? = some name ∧
      name ∈ seen ++ names.take index ∧
        ∀ earlier other, names[earlier]? = some other → other ∈ seen ++ names.take earlier →
          index ≤ earlier := by
  induction names generalizing seen with
  | nil => cases hrepeated
  | cons first names ih =>
    unfold firstRepeated at hrepeated
    split at hrepeated
    · next hseen =>
      obtain rfl := Option.some.inj hrepeated
      have hmem := List.contains_iff_mem.1 hseen
      exact ⟨0, rfl, List.mem_append_left _ hmem, fun earlier _ _ _ ↦ Nat.zero_le earlier⟩
    · next hseen =>
      obtain ⟨index, hname, hmem, hleast⟩ := ih hrepeated
      have hperm (count : Nat) : (first :: seen ++ names.take count).Perm
          (seen ++ (first :: names).take (count + 1)) := by
        rw [List.take_succ_cons]
        exact List.perm_middle.symm
      refine ⟨index + 1, hname, (hperm index).mem_iff.1 hmem, ?_⟩
      intro earlier other hother hagain
      cases earlier with
      | zero =>
        obtain rfl : first = other := Option.some.inj hother
        rw [List.take_zero, List.append_nil] at hagain
        exact absurd (List.contains_iff_mem.2 hagain) hseen
      | succ earlier =>
        exact Nat.succ_le_succ (hleast earlier other hother ((hperm earlier).mem_iff.2 hagain))

/-- That all names differ, as a check of its own. -/
def checkNames (names : List String) : Except LexError Unit :=
  match firstRepeated [] names with
  | some name => .error ⟨.duplicateState name, .state name⟩
  | none => .ok ()

theorem reports_checkNames (names : List String) :
    Reports (repeatedNames names) (checkNames names) := by
  unfold checkNames
  split
  · next name hrepeated =>
    obtain ⟨index, hname, hmem, hleast⟩ := exists_index_of_firstRepeated hrepeated
    refine ⟨[index], ⟨index, name, rfl, hname, hmem, rfl⟩, ?_⟩
    rintro other instead ⟨later, another, rfl, hanother, hagain, rfl⟩
    rcases Nat.lt_or_eq_of_le (hleast later another hanother hagain) with hlt | rfl
    · exact .inl (List.cons_lt_cons_iff.2 (.inl hlt))
    · obtain rfl := Option.some.inj (hname.symm.trans hanother)
      exact .inr ⟨rfl, rfl⟩
  · next hnone =>
    rintro rank error ⟨index, name, -, hname, hmem, -⟩
    have hnodup := (firstRepeated_eq_none_iff.1 hnone).1
    exact absurd (two_le_count_of_mem_take hname hmem)
      (Nat.not_le.2 (Nat.lt_succ_of_le (List.nodup_iff_count_le_one.1 hnodup name)))

/-- That the initial state is there, as a check of its own. -/
def checkInitial (table : RuleTable) (initial : String) : Except LexError Unit :=
  if table.names.contains initial then .ok () else .error ⟨.missingInitialState initial, .nowhere⟩

theorem reports_checkInitial (table : RuleTable) (initial : String) :
    Reports (fun rank error ↦ rank = [] ∧ initial ∉ table.names ∧
      error = ⟨.missingInitialState initial, .nowhere⟩) (checkInitial table initial) := by
  unfold checkInitial
  split
  · next hmem =>
    rintro rank error ⟨-, hinitial, -⟩
    exact hinitial (List.contains_iff_mem.1 hmem)
  · next hmem =>
    refine ⟨[], ⟨rfl, mt List.contains_iff_mem.2 hmem, rfl⟩, ?_⟩
    rintro other instead ⟨rfl, -, rfl⟩
    exact .inr ⟨rfl, rfl⟩

theorem build_eq (table : RuleTable) (initial : String) (reader : PatternReader) :
    build table initial reader = (do
    checkNames table.names
    checkInitial table initial
    let states ← table.attach.mapM (readState reader table)
    .ok { states, initial }) := by
  unfold build checkNames checkInitial
  cases firstRepeated [] table.names with
  | some name => rfl
  | none => cases table.names.contains initial <;> rfl

theorem reports_states (table : RuleTable) (reader : PatternReader) : Reports
    (numbered (fun _ ↦ stateDefects table reader) 0 table)
    (table.attach.mapM (readState reader table)) := by
  have hattached : Reports
      (numbered (fun _ state ↦ stateDefects table reader state.val) 0 table.attach)
      (table.attach.mapM (readState reader table)) :=
    Reports.mapM fun _ state _ ↦ reports_readState state
  apply hattached.congr
  intro rank error
  have hvalues (index : Nat) (state : StateEntry) : table[index]? = some state ↔
      ∃ attached, table.attach[index]? = some attached ∧ attached.val = state := by
    rw [← Option.map_eq_some_iff, ← List.getElem?_map, List.attach_map_subtype_val]
  simp only [numbered, hvalues]
  constructor
  · rintro ⟨index, attached, hattached, hunder⟩
    exact ⟨index, attached.val, ⟨attached, hattached, rfl⟩, hunder⟩
  · rintro ⟨index, _, ⟨attached, hattached, rfl⟩, hunder⟩
    exact ⟨index, attached, hattached, hunder⟩

theorem reports_build (table : RuleTable) (initial : String) (reader : PatternReader) :
    Reports (table.Defect initial reader) (build table initial reader) := by
  rw [build_eq]
  have hreports := (reports_checkNames table.names).bind
    ((beyond_under Nat.zero_lt_one).or (beyond_under Nat.zero_lt_two)) fun _ _ ↦
      (reports_checkInitial table initial).bind (beyond_under Nat.one_lt_two) fun _ _ ↦
        ((reports_states table reader).map fun states ↦ ({ states, initial } : Lexer)).under 2
  apply hreports.congr
  intro rank error
  constructor
  · rintro (⟨_, rfl, index, name, rfl, hname, hearlier, rfl⟩ | ⟨_, rfl, rfl, hinitial, rfl⟩ |
      ⟨_, rfl, index, state, hstate, _, rfl, hdefects⟩)
    · exact .repeated hname hearlier
    · exact .initial hinitial
    · rw [Nat.zero_add]
      rcases hdefects with ⟨_, rfl, path, inner, location, entry, check, rfl, hmeets, hdefect⟩ |
        ⟨_, rfl, path, inner, location, entry, check, rfl, hmeets, hdefect⟩
      · exact .splicing hstate hmeets hdefect
      · exact .rule hstate hmeets hdefect
  · intro hdefect
    cases hdefect with
    | @repeated index name hname hearlier =>
      exact .inl ⟨[index], rfl, index, name, rfl, hname, hearlier, rfl⟩
    | initial hinitial => exact .inr (.inl ⟨[], rfl, rfl, hinitial, rfl⟩)
    | @splicing index check state path inner location entry error hstate hmeets hdefect =>
      refine .inr (.inr ⟨index :: 0 :: path ++ [check], rfl, index, state, hstate,
        0 :: path ++ [check], by simp, ?_⟩)
      exact .inl ⟨path ++ [check], rfl, path, inner, location, entry, check, rfl, hmeets, hdefect⟩
    | @rule index check state path inner location entry error hstate hmeets hdefect =>
      refine .inr (.inr ⟨index :: 1 :: path ++ [check], rfl, index, state, hstate,
        1 :: path ++ [check], by simp, ?_⟩)
      exact .inr ⟨path ++ [check], rfl, path, inner, location, entry, check, rfl, hmeets, hdefect⟩

end Lexer

/-- A lexer is not built exactly if the table has a defect, and the error that is given instead is
the defect of the lowest rank. What it says of the table is true. This holds for whatever reads the
patterns. -/
theorem RuleTable.build_reports_first_defect (table : RuleTable) (initial : String)
    (reader : PatternReader) (error : LexError) :
    Lexer.build table initial reader = .error error ↔
      table.Genuine initial reader error ∧ ∃ rank, table.Defect initial reader rank error ∧
        ∀ other instead, table.Defect initial reader other instead → ¬ other < rank := by
  have hreports := reports_build table initial reader
  constructor
  · intro hbuild
    rw [hbuild] at hreports
    obtain ⟨rank, hdefect, hothers⟩ := hreports
    refine ⟨hdefect.genuine, rank, hdefect, ?_⟩
    intro other instead hother
    rcases hothers other instead hother with hlt | ⟨rfl, -⟩
    · exact List.lt_asymm hlt
    · exact List.lt_irrefl rank
  · rintro ⟨-, rank, hdefect, hleast⟩
    cases hbuild : build table initial reader with
    | ok lexer =>
      rw [hbuild] at hreports
      exact absurd hdefect (hreports rank error)
    | error reported =>
      rw [hbuild] at hreports
      obtain ⟨lowest, hlowest, hothers⟩ := hreports
      rcases hothers rank error hdefect with hlt | ⟨-, rfl⟩
      · exact absurd hlt (hleast lowest reported hlowest)
      · rfl

/-- The rule is met first in the expansion of `root`, before the rule that `root` has itself and
before the missing state. -/
example : Lexer.build [⟨"root", [.splice "inner", .rule ⟨"(", .token .name, none⟩]⟩,
    ⟨"last", [.splice "gone"]⟩,
    ⟨"inner", [.rule ⟨"a", .token .name, none⟩, .rule ⟨"b", .byGroups [], some (.push "gone")⟩]⟩]
    "root" = .error ⟨.groupCountMismatch "b" 0 0, .entry "inner" 1⟩ := by cbv

/-- The repetition without rounds takes its group with it, so that one of two groups is left. -/
example : Lexer.build [⟨"root", [.rule ⟨"(a){0}(b)", .byGroups [.name, .number], none⟩]⟩]
    "root" = .error ⟨.groupCountMismatch "(a){0}(b)" 2 1, .entry "root" 0⟩ := by cbv

end LexTable
