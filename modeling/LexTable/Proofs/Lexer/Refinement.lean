import LexTable.Proofs.Lexer.Scan

/-!
# Cursors read scans

A cursor gives out the tokens of a scan one at a time, while its place and its state are those
after the match from which the last token came. What is still to be read off a cursor is the
invariant: one pull takes the first reading away, and so any number of pulls is a prefix of the
readings of the scan.
-/

namespace LexTable

open Text (byteLength)

/-- The cursor is at the place after `done`, with the states of the stack entered. -/
structure Cursor.At (lexer : Lexer) (cursor : Cursor) (stack : Stack) (done : List Char) :
    Prop where
  before_eq : cursor.before = done.getLast?
  position_eq : cursor.position = byteLength done
  stack_eq : stack.top :: stack.below = cursor.pushed ++ [lexer.initial]

namespace Cursor.At

variable {lexer : Lexer} {cursor : Cursor} {stack : Stack} {done : List Char}

theorem start (lexer : Lexer) (text : String) :
    (Cursor.start text).At lexer ⟨lexer.initial, []⟩ [] :=
  ⟨rfl, rfl, rfl⟩

theorem state_eq (hat : cursor.At lexer stack done) : cursor.state lexer = stack.top := by
  have hstack := hat.stack_eq
  unfold Cursor.state
  cases hpushed : cursor.pushed with
  | nil =>
    rw [hpushed] at hstack
    exact (List.cons.inj hstack).1.symm
  | cons state states =>
    rw [hpushed] at hstack
    exact (List.cons.inj hstack).1.symm

theorem move_eq (hat : cursor.At lexer stack done) (next : Option Transition) :
    (stack.move next).top :: (stack.move next).below =
      Transition.apply next cursor.pushed ++ [lexer.initial] := by
  have hstack := hat.stack_eq
  cases next with
  | none => exact hstack
  | some transition =>
    cases transition with
    | push state => exact congrArg (state :: ·) hstack
    | pop =>
      obtain ⟨top, below⟩ := stack
      cases hpushed : cursor.pushed with
      | nil =>
        rw [hpushed] at hstack
        obtain ⟨rfl, rfl⟩ := List.cons.inj hstack
        rfl
      | cons state states =>
        rw [hpushed] at hstack
        obtain ⟨rfl, rfl⟩ := List.cons.inj hstack
        cases states <;> rfl

theorem advance (hat : cursor.At lexer stack done) (length : Nat) (pieces : List (Kind × Nat))
    {next : Stack} {pushed : List String}
    (hnext : next.top :: next.below = pushed ++ [lexer.initial]) :
    (cursor.advance length pieces pushed).At lexer next (done ++ cursor.rest.take length) where
  before_eq := by
    rw [List.getLast?_append, ← hat.before_eq]
    rfl
  position_eq := by
    rw [Text.byteLength_append, ← hat.position_eq]
    rfl
  stack_eq := hnext

/-- One step of the cursor is one step of the scan. -/
theorem step (hat : cursor.At lexer stack done) (hrest : cursor.rest ≠ []) :
    ∃ length stretch, Consumes lexer stack done cursor.rest length stretch ∧
      (cursor.step lexer).At lexer stretch.stack (done ++ cursor.rest.take length) ∧
      (cursor.step lexer).rest = cursor.rest.drop length ∧
      (cursor.step lexer).pending = cursor.pending ++ stretch.tokens := by
  unfold Cursor.step
  rw [hat.state_eq, hat.before_eq]
  cases hfirst : Lexer.firstMatch? done.getLast? cursor.rest (lexer.rulesOf stack.top) with
  | some found =>
    obtain ⟨rule, m⟩ := found
    refine ⟨_, _, .matched (firstMatch?_eq_some_iff.1 hfirst), ?_, rfl, ?_⟩
    · exact hat.advance _ _ (hat.move_eq rule.next)
    · rw [← hat.position_eq]
      rfl
  | none =>
    have hnone := firstMatch?_eq_none_iff.1 hfirst
    obtain ⟨c, tail, htail⟩ := List.exists_cons_of_ne_nil hrest
    have hhead : cursor.rest.head? = some c := by rw [htail]; rfl
    have htake : cursor.rest.take 1 = [c] := by rw [htail]; rfl
    have hcut (kind : Kind) : Token.cut cursor.position [c] [(kind, 1)] =
        [Token.of kind (byteLength done) [c]] := by
      rw [← hat.position_eq]
      rfl
    by_cases hc : c = '\n'
    · subst hc
      refine ⟨_, _, .newline hnone hhead, ?_⟩
      dsimp only
      rw [if_pos hhead, ← hcut]
      refine ⟨hat.advance 1 _ rfl, rfl, ?_⟩
      rw [← htake]
      rfl
    · refine ⟨_, _, .other hnone hhead hc, ?_⟩
      have hne : cursor.rest.head? ≠ some '\n' := by
        rw [hhead]
        intro hsome
        exact hc (Option.some.inj hsome)
      dsimp only
      rw [if_neg hne, ← hcut]
      refine ⟨hat.advance 1 _ hat.stack_eq, rfl, ?_⟩
      rw [← htake]
      rfl

end Cursor.At

theorem Cursor.At.exists_scan {lexer : Lexer} {cursor : Cursor} {stack : Stack} {done : List Char}
    (hat : cursor.At lexer stack done) : ∃ scan, Scan lexer stack done cursor.rest scan := by
  induction hlength : cursor.rest.length using Nat.strongRecOn
    generalizing cursor stack done with
  | ind remaining ih =>
    by_cases hrest : cursor.rest = []
    · rw [hrest]
      exact ⟨[], .finish stack done⟩
    · obtain ⟨length, stretch, hstep, hnext, hdrop, -⟩ := hat.step hrest
      have hless : (cursor.step lexer).rest.length < remaining := by
        have hpos := hstep.length_pos
        have hle := hstep.length_le
        rw [hdrop, List.length_drop]
        omega
      obtain ⟨scan, hscan⟩ := ih _ hless hnext rfl
      rw [hdrop] at hscan
      exact ⟨stretch :: scan, .step hstep hscan⟩

/-- A token that was pulled, with the place and the state that the cursor then shows. -/
structure Reading where
  token : Token
  position : Nat
  state : String

def Cursor.reading (lexer : Lexer) (pulled : Token × Cursor) : Reading :=
  ⟨pulled.1, pulled.2.position, pulled.2.state lexer⟩

/-- All tokens of a match are read at its end. -/
def Stretch.readings (stretch : Stretch) : List Reading :=
  stretch.tokens.map fun token ↦ ⟨token, stretch.stop, stretch.stack.top⟩

theorem Stretch.readings_cons (stop : Nat) (stack : Stack) (token : Token) (tokens : List Token) :
    Stretch.readings ⟨stop, stack, token :: tokens⟩ =
      ⟨token, stop, stack.top⟩ :: Stretch.readings ⟨stop, stack, tokens⟩ := rfl

/-- The readings that pulls from the cursor will give, first those of the match that it is in. -/
def Cursor.Ahead (lexer : Lexer) (cursor : Cursor) (readings : List Reading) : Prop :=
  ∃ stack done scan, cursor.At lexer stack done ∧ Scan lexer stack done cursor.rest scan ∧
    readings = Stretch.readings ⟨cursor.position, stack, cursor.pending⟩ ++
      scan.flatMap Stretch.readings

namespace Cursor.Ahead

variable {lexer : Lexer} {cursor : Cursor}

theorem start {text : String} {scan : List Stretch}
    (hscan : Scan lexer ⟨lexer.initial, []⟩ [] text.toList scan) :
    (Cursor.start text).Ahead lexer (scan.flatMap Stretch.readings) :=
  ⟨_, _, scan, .start lexer text, hscan, rfl⟩

/-- Filling a cursor changes nothing in what is to be read, and it fails only at the end. -/
theorem fill {readings : List Reading} (hahead : cursor.Ahead lexer readings) :
    (cursor.fill lexer).Ahead lexer readings ∧
      ((cursor.fill lexer).pending = [] → readings = [] ∧ cursor.fill lexer = cursor) := by
  obtain ⟨stack, done, scan, hat, hscan, hreadings⟩ := hahead
  unfold Cursor.fill
  split
  · next hempty =>
    obtain ⟨hpending, hrest⟩ : cursor.pending = [] ∧ cursor.rest ≠ [] := by simpa using hempty
    obtain ⟨length, stretch, hstep, hnext, hdrop, hwaiting⟩ := hat.step hrest
    rw [hpending, List.nil_append] at hwaiting
    generalize htext : cursor.rest = text at hscan hrest
    cases hscan with
    | finish => exact absurd rfl hrest
    | @step _ _ _ other instead stretches hother hscan =>
      rw [htext] at hstep hdrop hnext
      obtain ⟨rfl, rfl⟩ := hstep.unique hother
      rw [← hdrop] at hscan
      refine ⟨⟨_, _, stretches, hnext, hscan, ?_⟩, ?_⟩
      · rw [hreadings, hpending, hwaiting, hnext.position_eq, ← hstep.stop_eq]
        rfl
      · intro hnil
        exact absurd (hwaiting.symm.trans hnil) hstep.tokens_ne_nil
  · next hwaiting =>
    refine ⟨⟨stack, done, scan, hat, hscan, hreadings⟩, ?_⟩
    intro hpending
    refine ⟨?_, rfl⟩
    have hrest : cursor.rest = [] := by simpa [hpending] using hwaiting
    rw [hrest] at hscan
    rw [hreadings, hpending, hscan.unique (.finish stack done)]
    rfl

/-- At the end a pull gives nothing and leaves the cursor as it is. -/
theorem pull_nil (hahead : cursor.Ahead lexer []) : cursor.pull lexer = (none, cursor) := by
  obtain ⟨⟨stack, done, scan, -, -, hreadings⟩, hstuck⟩ := hahead.fill
  have hpending : (cursor.fill lexer).pending = [] :=
    List.map_eq_nil_iff.1 (List.append_eq_nil_iff.1 hreadings.symm).1
  obtain ⟨-, hsame⟩ := hstuck hpending
  rw [hsame] at hpending
  unfold Cursor.pull
  dsimp only
  rw [hsame, hpending]
  exact congrArg (none, ·) (by rw [List.tail_nil, ← hpending])

/-- A pull takes the first reading away. -/
theorem pull_cons {reading : Reading} {readings : List Reading}
    (hahead : cursor.Ahead lexer (reading :: readings)) :
    ∃ after : Cursor, cursor.pull lexer = (some reading.token, after) ∧
      Cursor.reading lexer (reading.token, after) = reading ∧ after.Ahead lexer readings := by
  obtain ⟨⟨stack, done, scan, hat, hscan, hreadings⟩, hstuck⟩ := hahead.fill
  cases hpending : (cursor.fill lexer).pending with
  | nil => exact absurd (hstuck hpending).1 (List.cons_ne_nil _ _)
  | cons token tokens =>
    rw [hpending, Stretch.readings_cons, List.cons_append] at hreadings
    obtain ⟨hreading, hrest⟩ := List.cons.inj hreadings
    refine ⟨{ cursor.fill lexer with pending := tokens }, ?_, ?_, ?_⟩
    · unfold Cursor.pull
      dsimp only
      rw [hpending, hreading]
      rfl
    · rw [hreading]
      exact congrArg (Reading.mk token _) hat.state_eq
    · exact ⟨stack, done, scan, ⟨hat.before_eq, hat.position_eq, hat.stack_eq⟩, hscan, hrest⟩

theorem pulls {readings : List Reading} (hahead : cursor.Ahead lexer readings) (limit : Nat) :
    (Cursor.pulls lexer limit cursor).map (Cursor.reading lexer) = readings.take limit := by
  induction limit generalizing cursor readings with
  | zero => rfl
  | succ limit ih =>
    unfold Cursor.pulls
    cases readings with
    | nil =>
      rw [hahead.pull_nil]
      rfl
    | cons reading readings =>
      obtain ⟨after, hpull, hreading, hafter⟩ := hahead.pull_cons
      rw [hpull]
      dsimp only
      rw [List.map_cons, List.take_succ_cons, hreading, ih hafter]

end Cursor.Ahead

/-- Each text has exactly one scan, which ends where the text ends. What a cursor shows after
each pull, the token, the place and the state, is what the scan says of the match to which the
token belongs. -/
theorem trace_reads_unique_scan (lexer : Lexer) (text : String) :
    ∃ scan, (∀ other, Scan lexer ⟨lexer.initial, []⟩ [] text.toList other ↔ other = scan) ∧
      (0 :: scan.map (·.stop)).IsChain (· < ·) ∧
      (0 :: scan.map (·.stop)).getLast? = some text.utf8ByteSize ∧
      (Cursor.start text).position = 0 ∧ (Cursor.start text).state lexer = lexer.initial ∧
      ∀ limit, (lexer.trace text (some limit)).map (Cursor.reading lexer) =
        (scan.flatMap Stretch.readings).take limit := by
  obtain ⟨scan, hscan⟩ := (Cursor.At.start lexer text).exists_scan
  obtain ⟨hchain, hlast⟩ := hscan.stops
  refine ⟨scan, ?_, hchain, ?_, rfl, rfl, ?_⟩
  · intro other
    constructor
    · intro hother
      exact hother.unique hscan
    · rintro rfl
      exact hscan
  · rw [← Text.byteLength_toList text]
    exact hlast
  · intro limit
    exact (Cursor.Ahead.start hscan).pulls limit

end LexTable
