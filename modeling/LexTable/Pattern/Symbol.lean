import LexTable.Pattern.Error
import LexTable.Regex.CharSet
import LexTable.Regex.Look

/-!
# The symbols of a pattern

The text of a pattern falls into symbols: literal characters, assertions, classes, repetition
marks and the brackets of groups and classes. `scan` reads them from left to right. A symbol
says how many characters it takes up, so that the scan itself is a recursion on the text.
-/

namespace LexTable.Pattern

inductive Flag where
  | ignoreCase
  | multiLine
  | dotAll
  deriving DecidableEq

inductive SetOp where
  | inter
  | diff
  | symmDiff
  deriving DecidableEq

inductive Symbol where
  | literal (c : Char)
  | dot
  | caret
  | dollar
  | look (l : Look)
  | set (s : CharSet)
  | openCapture (name : Option (List Char))
  | openPlain (changes : List (Flag × Bool))
  | close
  | bar
  | flags (changes : List (Flag × Bool))
  | repetition (least : Nat) (most : Option Nat) (greedy : Bool)
  /-- The start of a bracketed class, whose first members may be dashes or a closing bracket. -/
  | openClass (negated : Bool) (members : List Char)
  | member (s : CharSet)
  | setOp (op : SetOp)
  | closeClass
  deriving DecidableEq

/-- How many characters a piece of the pattern takes up. -/
abbrev Width := Nat

def isMeta (c : Char) : Bool :=
  "\\.+*?()|[]\x7b\x7d^$#&-~".toList.contains c

/-- Characters that stand for themselves after a backslash: all of ASCII but letters, digits
and the two angle brackets. -/
def isEscapable (c : Char) : Bool :=
  isMeta c || (c.toNat < 0x80 && !c.isAlphanum && c != '<' && c != '>')

def hexValue? (c : Char) : Option Nat :=
  if '0' ≤ c ∧ c ≤ '9' then some (c.toNat - '0'.toNat)
  else if 'a' ≤ c ∧ c ≤ 'f' then some (c.toNat - 'a'.toNat + 10)
  else if 'A' ≤ c ∧ c ≤ 'F' then some (c.toNat - 'A'.toNat + 10)
  else none

/-- The character whose code point the hexadecimal digits write. -/
def hexChar (digits : List Char) : Except Error Char := do
  let values ← (digits.mapM hexValue?).elim (.error .malformedEscape) .ok
  let code := values.foldl (fun n d => 16 * n + d) 0
  if digits.isEmpty then .error .malformedEscape
  else if code.isValidChar then .ok (Char.ofNat code)
  else .error .invalidScalar

/-- The text up to the first `stop`, if there is one. -/
def upTo? (stop : Char) (cs : List Char) : Option (List Char) :=
  if cs.contains stop then some (cs.takeWhile (· != stop)) else none

/-- What an escape or a plain character of a class denotes. -/
inductive Atom where
  | literal (c : Char)
  | set (s : CharSet)
  | look (l : Look)
  deriving DecidableEq

/-- The character of an escape by its code point: digits in braces, or `count` digits. -/
def hexEscape (count : Nat) (cs : List Char) : Except Error (Atom × Width) :=
  match cs with
  | '\x7b' :: rest =>
    match upTo? '\x7d' rest with
    | none => .error .malformedEscape
    | some digits => do
      let c ← hexChar digits
      .ok (.literal c, digits.length + 2)
  | _ =>
    if (cs.take count).length < count then .error .malformedEscape
    else do
      let c ← hexChar (cs.take count)
      .ok (.literal c, count)

/-- The set that a property in braces names, and whether the name negates it. -/
def namedProperty (name : List Char) : Except Error CharSet :=
  let found :=
    match upTo? '!' name, upTo? ':' name, upTo? '=' name with
    | some key, _, _ =>
      if (name.drop key.length).take 2 = ['!', '='] then
        (CharSet.valued? key (name.drop (key.length + 2))).map CharSet.compl
      else
        none
    | none, some key, _ => CharSet.valued? key (name.drop (key.length + 1))
    | none, none, some key => CharSet.valued? key (name.drop (key.length + 1))
    | none, none, none => CharSet.named? name
  found.elim (.error .unknownProperty) .ok

def propertyEscape (negated : Bool) (cs : List Char) : Except Error (Atom × Width) := do
  let (s, width) ←
    match cs with
    | [] => .error .malformedEscape
    | '\x7b' :: rest =>
      match upTo? '\x7d' rest with
      | none => .error .malformedEscape
      | some name => do
        let s ← namedProperty name
        .ok (s, name.length + 2)
    | '\\' :: _ => .error .malformedEscape
    | c :: _ => do
      let s ← (CharSet.named? [c]).elim (.error .unknownProperty) .ok
      .ok (s, 1)
  .ok (.set (if negated then s.compl else s), width)

def isBoundaryLetter (c : Char) : Bool :=
  c.isAlpha || c == '-'

/-- The assertion of a word boundary, with the side that may follow it in braces. Braces that
hold no name of a side are a repetition. -/
def boundaryEscape (cs : List Char) : Except Error (Atom × Width) :=
  match cs with
  | '\x7b' :: [] => .error .malformedEscape
  | '\x7b' :: c :: rest =>
    if isBoundaryLetter c then
      let name := (c :: rest).takeWhile isBoundaryLetter
      match (c :: rest).drop name.length with
      | '\x7d' :: _ =>
        match String.ofList name with
        | "start" => .ok (.look .wordStart, name.length + 2)
        | "end" => .ok (.look .wordEnd, name.length + 2)
        | "start-half" => .ok (.look .wordStartHalf, name.length + 2)
        | "end-half" => .ok (.look .wordEndHalf, name.length + 2)
        | _ => .error .malformedEscape
      | _ => .error .malformedEscape
    else
      .ok (.look .wordBoundary, 0)
  | _ => .ok (.look .wordBoundary, 0)

/-- What a backslash before `cs` denotes, and how many characters of `cs` it takes. -/
def escape (cs : List Char) : Except Error (Atom × Width) :=
  let wider := Except.map fun (found : Atom × Width) => (found.1, found.2 + 1)
  match cs with
  | [] => .error .malformedEscape
  | 'x' :: rest => wider (hexEscape 2 rest)
  | 'u' :: rest => wider (hexEscape 4 rest)
  | 'U' :: rest => wider (hexEscape 8 rest)
  | 'p' :: rest => wider (propertyEscape false rest)
  | 'P' :: rest => wider (propertyEscape true rest)
  | 'b' :: rest => wider (boundaryEscape rest)
  | 'd' :: _ => .ok (.set (.property .digit), 1)
  | 'D' :: _ => .ok (.set (.compl (.property .digit)), 1)
  | 's' :: _ => .ok (.set (.property .whiteSpace), 1)
  | 'S' :: _ => .ok (.set (.compl (.property .whiteSpace)), 1)
  | 'w' :: _ => .ok (.set (.property .word), 1)
  | 'W' :: _ => .ok (.set (.compl (.property .word)), 1)
  | 'A' :: _ => .ok (.look .textStart, 1)
  | 'z' :: _ => .ok (.look .textEnd, 1)
  | 'B' :: _ => .ok (.look .notWordBoundary, 1)
  | '<' :: _ => .ok (.look .wordStart, 1)
  | '>' :: _ => .ok (.look .wordEnd, 1)
  | 'a' :: _ => .ok (.literal '\x07', 1)
  | 'f' :: _ => .ok (.literal '\x0c', 1)
  | 't' :: _ => .ok (.literal '\t', 1)
  | 'n' :: _ => .ok (.literal '\n', 1)
  | 'r' :: _ => .ok (.literal '\r', 1)
  | 'v' :: _ => .ok (.literal '\x0b', 1)
  | c :: _ => if isEscapable c then .ok (.literal c, 1) else .error .unknownEscape

/-- A number of 32 bits with white space around it. -/
def decimal (cs : List Char) : Except Error (Nat × Width) :=
  let leading := cs.takeWhile Unicode.isWhiteSpace
  let digits := (cs.drop leading.length).takeWhile Char.isDigit
  let trailing := (cs.drop (leading.length + digits.length)).takeWhile Unicode.isWhiteSpace
  let value := digits.foldl (fun n d => 10 * n + (d.toNat - '0'.toNat)) 0
  if digits.isEmpty ∨ UInt32.size ≤ value then .error .malformedCount
  else .ok (value, leading.length + digits.length + trailing.length)

/-- The bounds of a counted repetition, from after its opening brace to its closing one. -/
def count (cs : List Char) : Except Error (Nat × Option Nat × Width) := do
  let (least, width) ← decimal cs
  match cs.drop width with
  | '\x7d' :: _ => .ok (least, some least, width + 1)
  | ',' :: '\x7d' :: _ => .ok (least, none, width + 2)
  | ',' :: rest =>
    let (most, further) ← decimal rest
    match rest.drop further with
    | '\x7d' :: _ =>
      if least ≤ most then .ok (least, some most, width + further + 2)
      else .error .malformedCount
    | _ => .error .malformedCount
  | _ => .error .malformedCount

/-- A repetition whose mark is `width` characters long, lazy if a question mark follows. -/
def repetition (least : Nat) (most : Option Nat) (width : Width) (cs : List Char) :
    Symbol × Width :=
  match cs.drop width with
  | '?' :: _ => (.repetition least most false, width + 1)
  | _ => (.repetition least most true, width)

def flag? : Char → Option Flag
  | 'i' => some .ignoreCase
  | 'm' => some .multiLine
  | 's' => some .dotAll
  | _ => none

/-- The flags up to a colon or a closing parenthesis, and whether it was the parenthesis. Flags
after a dash are cleared; none may be given twice. -/
def flagChanges (value justNegated : Bool) (seen : List Flag) :
    List Char → Except Error (List (Flag × Bool) × Bool × Width)
  | [] => .error .malformedFlags
  | ':' :: _ => if justNegated then .error .malformedFlags else .ok ([], false, 1)
  | ')' :: _ => if justNegated then .error .malformedFlags else .ok ([], true, 1)
  | '-' :: cs =>
    if value then do
      let (changes, closed, width) ← flagChanges false true seen cs
      .ok (changes, closed, width + 1)
    else
      .error .malformedFlags
  | c :: cs =>
    match flag? c with
    | none => .error .malformedFlags
    | some flag =>
      if seen.contains flag then .error .malformedFlags
      else do
        let (changes, closed, width) ← flagChanges value false (flag :: seen) cs
        .ok ((flag, value) :: changes, closed, width + 1)

def isGroupName : List Char → Bool
  | [] => false
  | c :: cs =>
    (c == '_' || Unicode.isAlphabetic c) &&
    cs.all fun d => "_.[]".toList.contains d || Unicode.isAlphanumeric d

/-- A named group, from after the opening angle bracket to the closing one. -/
def openNamed (cs : List Char) (width : Width) : Except Error (Symbol × Width) :=
  match upTo? '>' cs with
  | none => .error .malformedGroupName
  | some name =>
    if isGroupName name then .ok (.openCapture (some name), width + name.length + 1)
    else .error .malformedGroupName

/-- What an opening parenthesis before `cs` begins; the width counts the parenthesis. -/
def openGroup (cs : List Char) : Except Error (Symbol × Width) :=
  match cs with
  | '?' :: '=' :: _ => .error .lookAround
  | '?' :: '!' :: _ => .error .lookAround
  | '?' :: '<' :: '=' :: _ => .error .lookAround
  | '?' :: '<' :: '!' :: _ => .error .lookAround
  | '?' :: '<' :: rest => openNamed rest 3
  | '?' :: 'P' :: '<' :: rest => openNamed rest 4
  | '?' :: rest => do
    let (changes, closed, width) ← flagChanges true false [] rest
    if closed then
      if changes.isEmpty then .error .missingOperand else .ok (.flags changes, width + 2)
    else
      .ok (.openPlain changes, width + 2)
  | _ => .ok (.openCapture none, 1)

/-- The start of a bracketed class before `cs`; the width counts the bracket. -/
def openClass (cs : List Char) : Symbol × Width :=
  let (negated, rest) := match cs with
    | '^' :: rest => (true, rest)
    | _ => (false, cs)
  let dashes := rest.takeWhile (· == '-')
  let members := if dashes.isEmpty ∧ rest.head? = some ']' then [']'] else dashes
  (.openClass negated members, members.length + (if negated then 2 else 1))

/-- The symbol at the start of a text outside brackets. -/
def nextPlain (c : Char) (cs : List Char) : Except Error (Symbol × Width) :=
  match c with
  | '(' => openGroup cs
  | ')' => .ok (.close, 1)
  | '|' => .ok (.bar, 1)
  | '[' => .ok (openClass cs)
  | '?' => .ok (repetition 0 (some 1) 1 (c :: cs))
  | '*' => .ok (repetition 0 none 1 (c :: cs))
  | '+' => .ok (repetition 1 none 1 (c :: cs))
  | '\x7b' => do
    let (least, most, width) ← count cs
    .ok (repetition least most (width + 1) (c :: cs))
  | '.' => .ok (.dot, 1)
  | '^' => .ok (.caret, 1)
  | '$' => .ok (.dollar, 1)
  | '\\' => do
    let (atom, width) ← escape cs
    match atom with
    | .literal d => .ok (.literal d, width + 1)
    | .set s => .ok (.set s, width + 1)
    | .look l => .ok (.look l, width + 1)
  | _ => .ok (.literal c, 1)

/-- A character of a class, or an escape in its place. -/
def classAtom (c : Char) (cs : List Char) : Except Error (Atom × Width) :=
  if c = '\\' then
    (escape cs).map fun found => (found.1, found.2 + 1)
  else
    .ok (.literal c, 1)

/-- The named class of ASCII characters at the start of a text after a bracket. -/
def posixClass? (cs : List Char) : Option (CharSet × Width) :=
  match cs with
  | ':' :: rest =>
    let (negated, rest) := match rest with
      | '^' :: rest => (true, rest)
      | _ => (false, rest)
    match upTo? ':' rest with
    | none => none
    | some name =>
      match rest.drop name.length with
      | ':' :: ']' :: _ =>
        (CharSet.posix? (String.ofList name)).map fun s =>
          (if negated then s.compl else s, name.length + (if negated then 5 else 4))
      | _ => none
  | _ => none

/-- A member of a class: a character, an escape, or a range if a dash follows that is not the
last character of the class and begins no difference. -/
def classMember (offset : Nat) (c : Char) (cs : List Char) : Except Error (Symbol × Width) := do
  let (first, width) ← classAtom c cs
  let alone : Except Error (Symbol × Width) :=
    match first with
    | .literal d => .ok (.member (.single d), width)
    | .set s => .ok (.member s, width)
    | .look _ => .error .assertionInClass
  match (c :: cs).drop width with
  | '-' :: ']' :: _ => alone
  | '-' :: '-' :: _ => alone
  | '-' :: [] => .error .unclosedClass
  | '-' :: d :: rest =>
    let (last, further) ← classAtom d rest
    match first, last with
    | .literal a, .literal b =>
      let stop := width + 1 + further
      if a ≤ b then .ok (.member (.range a b), stop)
      else .error (.reversedRange offset (offset + stop))
    | _, _ => .error .rangeOfClasses
  | _ => alone

/-- The symbol at the start of a text inside brackets. -/
def nextInClass (offset : Nat) (c : Char) (cs : List Char) : Except Error (Symbol × Width) :=
  match c, cs with
  | '[', _ =>
    match posixClass? cs with
    | some (s, width) => .ok (.member s, width)
    | none => .ok (openClass cs)
  | ']', _ => .ok (.closeClass, 1)
  | '&', '&' :: _ => .ok (.setOp .inter, 2)
  | '-', '-' :: _ => .ok (.setOp .diff, 2)
  | '~', '~' :: _ => .ok (.setOp .symmDiff, 2)
  | _, _ => classMember offset c cs

/-- How many brackets are open after the symbol. -/
def Symbol.depthAfter (depth : Nat) : Symbol → Nat
  | openClass _ _ => depth + 1
  | closeClass => depth - 1
  | _ => depth

/-- Reads the symbols of a text that begins at character `offset` of the pattern, inside
`depth` brackets, and whose first `skip` characters belong to the symbol before. -/
def scanFrom (offset depth : Nat) : Nat → List Char → Except Error (List Symbol)
  | _, [] => .ok []
  | skip + 1, _ :: cs => scanFrom (offset + 1) depth skip cs
  | 0, c :: cs => do
    let (symbol, width) ←
      if depth = 0 then nextPlain c cs else nextInClass offset c cs
    let symbols ← scanFrom (offset + 1) (symbol.depthAfter depth) (width - 1) cs
    .ok (symbol :: symbols)

def scan (pattern : List Char) : Except Error (List Symbol) :=
  scanFrom 0 0 0 pattern

end LexTable.Pattern
