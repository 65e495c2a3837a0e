/-!
# Malformed patterns

The reasons for which the text of a pattern is no regular expression.
-/

namespace LexTable.Pattern

inductive Error where
  | unclosedClass
  | unclosedGroup
  | unopenedGroup
  | missingOperand
  | malformedCount
  | malformedEscape
  | unknownEscape
  | invalidScalar
  | unknownProperty
  | malformedGroupName
  | repeatedGroupName
  | malformedFlags
  | lookAround
  | assertionInClass
  | rangeOfClasses
  /-- The range from character `start` to character `stop` of the pattern ends below its first
  member. -/
  | reversedRange (start stop : Nat)
  deriving DecidableEq

end LexTable.Pattern
