import LexTable.Lexer.Basic
import LexTable.Text.Line
import LexTable.Token

/-!
# Cursors

A cursor goes through a text and gives out tokens one at a time. It works match by match: the
tokens of a match are made together and wait until they are pulled, while the place and the
state of the cursor are those after the match. Where no rule matches, one character becomes a
token, and a newline takes the cursor back to the initial state.
-/

namespace LexTable

/-- A place in a text, with the states entered since the initial one, the latest first, and the
tokens of the last match that were not pulled yet. -/
structure Cursor where
  before : Option Char := none
  rest : List Char
  position : Nat := 0
  pushed : List String := []
  pending : List Token := []
  deriving DecidableEq

/-- Divides a match from `done` to `stop` among kinds by the places of its groups: a group
that begins after the one before has ended gets a piece of its own, and what lies between
becomes text. Pieces are given by kind and length. -/
def Action.divide (stop done : Nat) : List (Kind × Option (Nat × Nat)) → List (Kind × Nat)
  | [] => if done < stop then [(.text, stop - done)] else []
  | (kind, some (first, last)) :: groups =>
    if first < last ∧ done ≤ first then
      (if done < first then [(.text, first - done)] else []) ++
        (kind, last - first) :: Action.divide stop last groups
    else
      Action.divide stop done groups
  | (_, none) :: groups => Action.divide stop done groups

/-- The pieces into which an action divides a match. -/
def Action.pieces (action : Action) (m : Match) : List (Kind × Nat) :=
  match action with
  | .token kind => [(kind, m.length)]
  | .byGroups kinds =>
    Action.divide m.length 0 (kinds.mapIdx fun index kind => (kind, m.group? (index + 1)))

/-- Cuts a text that begins at `position` into tokens of the given kinds and lengths. -/
def Token.cut (position : Nat) (text : List Char) : List (Kind × Nat) → List Token
  | [] => []
  | (kind, length) :: pieces =>
    let value := text.take length
    let stop := position + Text.byteLength value
    ⟨kind, String.ofList value, ⟨position, stop⟩⟩ :: Token.cut stop (text.drop length) pieces

/-- The first rule with a match that is not empty, and that match. -/
def Lexer.firstMatch? (before : Option Char) (rest : List Char) :
    List Lexer.Rule → Option (Lexer.Rule × Match)
  | [] => none
  | rule :: rules =>
    match rule.regex.match? before rest with
    | some m => if m.length = 0 then firstMatch? before rest rules else some (rule, m)
    | none => firstMatch? before rest rules

/-- The states above the initial one after a transition. -/
def Transition.apply (next : Option Transition) (pushed : List String) : List String :=
  match next with
  | none => pushed
  | some (.push state) => state :: pushed
  | some .pop => pushed.tail

namespace Cursor

def start (text : String) : Cursor :=
  { rest := text.toList }

/-- The state whose rules apply next. -/
def state (lexer : Lexer) (cursor : Cursor) : String :=
  cursor.pushed.headD lexer.initial

/-- Goes past the next `length` characters, which are divided into the given pieces. -/
def advance (cursor : Cursor) (length : Nat) (pieces : List (Kind × Nat)) (pushed : List String) :
    Cursor :=
  let text := cursor.rest.take length
  { before := text.getLast?.or cursor.before
    rest := cursor.rest.drop length
    position := cursor.position + Text.byteLength text
    pushed
    pending := cursor.pending ++ Token.cut cursor.position text pieces }

/-- Consumes the match of a rule or, if no rule matches, one character. -/
def step (lexer : Lexer) (cursor : Cursor) : Cursor :=
  match Lexer.firstMatch? cursor.before cursor.rest (lexer.rulesOf (cursor.state lexer)) with
  | some (rule, m) =>
    cursor.advance m.length (rule.action.pieces m) (Transition.apply rule.next cursor.pushed)
  | none =>
    if cursor.rest.head? = some '\n' then cursor.advance 1 [(.whitespace, 1)] []
    else cursor.advance 1 [(.error, 1)] cursor.pushed

/-- Makes sure that a token is waiting, unless the text is at its end. -/
def fill (lexer : Lexer) (cursor : Cursor) : Cursor :=
  if cursor.pending.isEmpty && !cursor.rest.isEmpty then cursor.step lexer else cursor

/-- The next token, if there is one, and the cursor after it. -/
def pull (lexer : Lexer) (cursor : Cursor) : Option Token × Cursor :=
  let filled := cursor.fill lexer
  (filled.pending.head?, { filled with pending := filled.pending.tail })

/-- Pulls up to `limit` tokens and gives each one with the cursor after it. -/
def pulls (lexer : Lexer) : Nat → Cursor → List (Token × Cursor)
  | 0, _ => []
  | limit + 1, cursor =>
    match cursor.pull lexer with
    | (none, _) => []
    | (some token, after) => (token, after) :: pulls lexer limit after

end Cursor

namespace Lexer

/-- The tokens of a text, at most `limit` of them, each with the cursor after it. Without a
limit it is as many as the text has characters, which no text exceeds. -/
def trace (lexer : Lexer) (text : String) (limit : Option Nat) : List (Token × Cursor) :=
  Cursor.pulls lexer (limit.getD text.length) (Cursor.start text)

def tokenize (lexer : Lexer) (text : String) : List Token :=
  (lexer.trace text none).map (·.1)

/-- The cursor after the given pulls from a text. -/
def endOfTrace (text : String) (steps : List (Token × Cursor)) : Cursor :=
  (steps.getLast?.map (·.2)).getD (Cursor.start text)

/-- One pull from a cursor among several: its number, and what it gave. -/
structure Pull where
  index : Nat
  token : Option Token
  after : Cursor
  deriving DecidableEq

/-- Pulls from several cursors of one lexer in the given order; numbers that no cursor has are
passed over. -/
def schedule (lexer : Lexer) : List Cursor → List Nat → List Pull
  | _, [] => []
  | cursors, index :: steps =>
    match cursors[index]? with
    | none => schedule lexer cursors steps
    | some cursor =>
      let (token, after) := cursor.pull lexer
      ⟨index, token, after⟩ :: schedule lexer (cursors.set index after) steps

end Lexer

end LexTable
