import LexTable.Pattern.Symbol
import LexTable.Regex.Basic

/-!
# From patterns to regular expressions

The symbols of a pattern are read one after the other into a state that holds what is open: the
branches of the group being read, the groups around it, and the classes being read. Flags, of which
there are those for case, lines and the dot, act from where they stand to the end of their group.
-/

namespace LexTable.Pattern

structure Flags where
  ignoreCase : Bool := false
  multiLine : Bool := false
  dotAll : Bool := false
  deriving DecidableEq

def Flags.set (flags : Flags) (flag : Flag) (value : Bool) : Flags :=
  match flag with
  | .ignoreCase => { flags with ignoreCase := value }
  | .multiLine => { flags with multiLine := value }
  | .dotAll => { flags with dotAll := value }

def Flags.change (flags : Flags) (changes : List (Flag × Bool)) : Flags :=
  changes.foldl (fun flags change => flags.set change.1 change.2) flags

/-- The set as the flags take it. -/
def Flags.chars (flags : Flags) (s : CharSet) : Regex :=
  .chars (if flags.ignoreCase then s.ignoreCase else s)

/-- An alternation being read. The lists hold the latest item first; `last` is the item of the
current branch that a repetition would take. -/
structure Branches where
  finished : List Regex := []
  before : List Regex := []
  last : Option Regex := none
  deriving DecidableEq

namespace Branches

def add (b : Branches) (r : Regex) : Branches :=
  { b with before := b.last.toList ++ b.before, last := some r }

/-- After this the branch has no item to repeat. -/
def settle (b : Branches) : Branches :=
  { b with before := b.last.toList ++ b.before, last := none }

def branch (b : Branches) : Regex :=
  Regex.seqAll (b.last.toList ++ b.before).reverse

def bar (b : Branches) : Branches :=
  { finished := b.branch :: b.finished }

def regex (b : Branches) : Regex :=
  Regex.altAll (b.branch :: b.finished).reverse

end Branches

/-- A group that is open, with the flags and the branches to go on with after it. -/
structure Frame where
  index : Option Nat
  flags : Flags
  outer : Branches
  deriving DecidableEq

/-- A bracketed class that is open: the operands before its last operator, and the members
after it, the latest first. -/
structure ClassFrame where
  negated : Bool
  left : Option (SetOp × CharSet) := none
  members : List CharSet := []
  deriving DecidableEq

namespace ClassFrame

/-- The members read so far, combined with the operands before them. -/
def operand (frame : ClassFrame) : CharSet :=
  let right := CharSet.unionAll frame.members.reverse
  match frame.left with
  | none => right
  | some (.inter, left) => left.inter right
  | some (.diff, left) => left.diff right
  | some (.symmDiff, left) => left.symmDiff right

def toSet (frame : ClassFrame) : CharSet :=
  if frame.negated then frame.operand.compl else frame.operand

def add (frame : ClassFrame) (s : CharSet) : ClassFrame :=
  { frame with members := s :: frame.members }

end ClassFrame

structure State where
  flags : Flags
  groups : Nat := 0
  names : List (List Char) := []
  frames : List Frame := []
  classes : List ClassFrame := []
  here : Branches := {}
  deriving DecidableEq

namespace State

def add (state : State) (r : Regex) : State :=
  { state with here := state.here.add r }

def openGroup (state : State) (index : Option Nat) : State :=
  { state with
    frames := ⟨index, state.flags, state.here⟩ :: state.frames
    here := {} }

def closeGroup (state : State) : Except Error State :=
  match state.frames with
  | [] => .error .unopenedGroup
  | frame :: frames =>
    let inner := state.here.regex
    .ok { state with
      flags := frame.flags
      frames := frames
      here := frame.outer.add (frame.index.elim inner fun i => .group i inner) }

def capture (state : State) (name : Option (List Char)) : Except Error State :=
  if name.any state.names.contains then
    .error .repeatedGroupName
  else
    let index := state.groups + 1
    .ok ({ state with groups := index, names := name.toList ++ state.names }.openGroup
      (some index))

def repetition (state : State) (least : Nat) (most : Option Nat) (greedy : Bool) :
    Except Error State :=
  match state.here.last with
  | none => .error .missingOperand
  | some r =>
    .ok { state with here := { state.here with last := some (r.repeated greedy least most) } }

def member (state : State) (s : CharSet) : State :=
  match state.classes with
  | [] => state.add (state.flags.chars s)
  | frame :: frames => { state with classes := frame.add s :: frames }

def setOp (state : State) (op : SetOp) : State :=
  match state.classes with
  | [] => state
  | frame :: frames =>
    { state with
      classes := { frame with left := some (op, frame.operand), members := [] } :: frames }

def closeClass (state : State) : Except Error State :=
  match state.classes with
  | [] => .error .unclosedClass
  | frame :: frames => .ok ({ state with classes := frames }.member frame.toSet)

def read (state : State) : Symbol → Except Error State
  | .literal c => .ok (state.add (state.flags.chars (.single c)))
  | .dot =>
    .ok (state.add (.chars (if state.flags.dotAll then .any else (CharSet.single '\n').compl)))
  | .caret => .ok (state.add (.look (if state.flags.multiLine then .lineStart else .textStart)))
  | .dollar => .ok (state.add (.look (if state.flags.multiLine then .lineEnd else .textEnd)))
  | .look l => .ok (state.add (.look l))
  | .set s => .ok (state.add (state.flags.chars s))
  | .openCapture name => state.capture name
  | .openPlain changes =>
    let state := state.openGroup none
    .ok { state with flags := state.flags.change changes }
  | .close => state.closeGroup
  | .bar => .ok { state with here := state.here.bar }
  | .flags changes =>
    .ok { state with flags := state.flags.change changes, here := state.here.settle }
  | .repetition least most greedy => state.repetition least most greedy
  | .openClass negated members =>
    .ok { state with
      classes := ⟨negated, none, members.map .single⟩ :: state.classes }
  | .member s => .ok (state.member s)
  | .setOp op => .ok (state.setOp op)
  | .closeClass => state.closeClass

def finish (state : State) : Except Error Regex :=
  if !state.classes.isEmpty then .error .unclosedClass
  else if !state.frames.isEmpty then .error .unclosedGroup
  else .ok state.here.regex

end State

/-- The regular expression that the text of a pattern writes, read under the given flags. -/
def parse (flags : Flags) (pattern : List Char) : Except Error Regex := do
  let symbols ← scan pattern
  let state ← symbols.foldlM State.read { flags }
  state.finish

end LexTable.Pattern
