import LexTable.Kind

/-!
# Themes

A theme gives kinds their styles, written as the parameters of a terminal's graphics sequence. A
kind without a style of its own has the style of the kind that it refines.
-/

namespace LexTable

/-- The style of its own that each kind has. -/
structure Theme where
  own : Kind → Option String

namespace Theme

/-- The theme without styles. -/
def plain : Theme := ⟨fun _ => none⟩

def standard : Theme where
  own
    | .comment => some "90"
    | .keyword => some "34"
    | .keywordType => some "36"
    | .nameFunction => some "32"
    | .string => some "33"
    | .number => some "34"
    | .operator => some "35"
    | .error => some "91;4"
    | _ => none

/-- Gives a kind a style; an empty one takes its style away. -/
def set (theme : Theme) (kind : Kind) (style : String) : Theme where
  own k := if k = kind then (if style = "" then none else some style) else theme.own k

def setAll (theme : Theme) (styles : List (Kind × String)) : Theme :=
  styles.foldl (fun theme style => theme.set style.1 style.2) theme

/-- The style that a kind is shown in. -/
def style? (theme : Theme) (kind : Kind) : Option String :=
  kind.lineage.findSome? theme.own

end Theme

end LexTable
