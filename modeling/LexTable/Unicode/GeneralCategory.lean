import LexTable.Unicode.RangeTable

/-!
# General categories

Every scalar value has one general category. A name of a category may also stand for a group
of them, as `L` does for all letters; names are compared loosely, without case, spaces,
underscores and hyphens.
-/

namespace LexTable.Unicode

/-- The general categories of scalar values, under their short names in the standard. -/
inductive GeneralCategory
  | Lu | Ll | Lt | Lm | Lo
  | Mn | Mc | Me
  | Nd | Nl | No
  | Pc | Pd | Ps | Pe | Pi | Pf | Po
  | Sm | Sc | Sk | So
  | Zs | Zl | Zp
  | Cc | Cf | Co | Cn
  deriving DecidableEq

namespace GeneralCategory

def isLetter : GeneralCategory → Bool
  | .Lu | .Ll | .Lt | .Lm | .Lo => true
  | _ => false

def isNumber : GeneralCategory → Bool
  | .Nd | .Nl | .No => true
  | _ => false

/-- The categories that a name in loose form stands for. -/
def named? : String → Option (List GeneralCategory)
  | "l" | "letter" => some [.Lu, .Ll, .Lt, .Lm, .Lo]
  | "lc" | "casedletter" => some [.Lu, .Ll, .Lt]
  | "m" | "mark" | "combiningmark" => some [.Mn, .Mc, .Me]
  | "n" | "number" => some [.Nd, .Nl, .No]
  | "p" | "punctuation" | "punct" => some [.Pc, .Pd, .Ps, .Pe, .Pi, .Pf, .Po]
  | "s" | "symbol" => some [.Sm, .Sc, .Sk, .So]
  | "z" | "separator" => some [.Zs, .Zl, .Zp]
  | "c" | "other" => some [.Cc, .Cf, .Co, .Cn]
  | "lu" | "uppercaseletter" => some [.Lu]
  | "ll" | "lowercaseletter" => some [.Ll]
  | "lt" | "titlecaseletter" => some [.Lt]
  | "lm" | "modifierletter" => some [.Lm]
  | "lo" | "otherletter" => some [.Lo]
  | "mn" | "nonspacingmark" => some [.Mn]
  | "mc" | "spacingmark" => some [.Mc]
  | "me" | "enclosingmark" => some [.Me]
  | "nd" | "decimalnumber" | "digit" => some [.Nd]
  | "nl" | "letternumber" => some [.Nl]
  | "no" | "othernumber" => some [.No]
  | "pc" | "connectorpunctuation" => some [.Pc]
  | "pd" | "dashpunctuation" => some [.Pd]
  | "ps" | "openpunctuation" => some [.Ps]
  | "pe" | "closepunctuation" => some [.Pe]
  | "pi" | "initialpunctuation" => some [.Pi]
  | "pf" | "finalpunctuation" => some [.Pf]
  | "po" | "otherpunctuation" => some [.Po]
  | "sm" | "mathsymbol" => some [.Sm]
  | "sc" | "currencysymbol" => some [.Sc]
  | "sk" | "modifiersymbol" => some [.Sk]
  | "so" | "othersymbol" => some [.So]
  | "zs" | "spaceseparator" => some [.Zs]
  | "zl" | "lineseparator" => some [.Zl]
  | "zp" | "paragraphseparator" => some [.Zp]
  | "cc" | "control" | "cntrl" => some [.Cc]
  | "cf" | "format" => some [.Cf]
  | "co" | "privateuse" => some [.Co]
  | "cn" | "unassigned" => some [.Cn]
  | _ => none

end GeneralCategory

end LexTable.Unicode
