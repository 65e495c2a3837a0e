/-!
# Token kinds

Kinds form a tree of two levels: some stand on their own, and each of the others refines one of
these. A kind is written with the kind it refines before it, separated by a dot.
-/

namespace LexTable

inductive Kind where
  | text
  | whitespace
  | error
  | comment
  | commentSingle
  | keyword
  | keywordConstant
  | keywordType
  | name
  | nameFunction
  | operator
  | punctuation
  | string
  | stringDouble
  | stringSingle
  | number
  | numberFloat
  | numberInteger
  deriving DecidableEq

namespace Kind

/-- All kinds, in the order in which they are listed. -/
def all : List Kind :=
  [text, whitespace, error, comment, commentSingle, keyword, keywordConstant, keywordType, name,
    nameFunction, operator, punctuation, string, stringDouble, stringSingle, number, numberFloat,
    numberInteger]

/-- The kind that this one refines. -/
def parent? : Kind → Option Kind
  | whitespace => some text
  | commentSingle => some comment
  | keywordConstant | keywordType => some keyword
  | nameFunction => some name
  | stringDouble | stringSingle => some string
  | numberFloat | numberInteger => some number
  | _ => none

/-- The last part of the dotted name. -/
def leafName : Kind → String
  | text => "Text"
  | whitespace => "Whitespace"
  | error => "Error"
  | comment => "Comment"
  | commentSingle => "Single"
  | keyword => "Keyword"
  | keywordConstant => "Constant"
  | keywordType => "Type"
  | name => "Name"
  | nameFunction => "Function"
  | operator => "Operator"
  | punctuation => "Punctuation"
  | string => "String"
  | stringDouble => "Double"
  | stringSingle => "Single"
  | number => "Number"
  | numberFloat => "Float"
  | numberInteger => "Integer"

/-- The kind, followed by the kind that it refines. -/
def lineage (kind : Kind) : List Kind :=
  kind :: kind.parent?.toList

/-- Nothing is refined twice, so that a lineage goes up to the root. -/
theorem parent?_of_parent?_eq_some {kind parent : Kind} (h : kind.parent? = some parent) :
    parent.parent? = none := by
  cases kind <;> simp [parent?] at h <;> subst h <;> rfl

def isA (kind ancestor : Kind) : Bool :=
  kind.lineage.contains ancestor

def dottedName (kind : Kind) : String :=
  match kind.parent? with
  | none => kind.leafName
  | some parent => parent.leafName ++ "." ++ kind.leafName

/-- The kind that a name denotes: a dotted name, or a last part that only one kind has. The
name of the root may stand in front. -/
def ofName? (name : String) : Option Kind :=
  let root := "Token.".toList
  let bare :=
    if root.isPrefixOf name.toList then String.ofList (name.toList.drop root.length) else name
  match all.find? (·.dottedName == bare) with
  | some kind => some kind
  | none =>
    match all.filter (·.leafName == bare) with
    | [kind] => some kind
    | _ => none

end Kind

end LexTable
