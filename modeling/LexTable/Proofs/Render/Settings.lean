import LexTable.Proofs.Render.Names
import LexTable.Proofs.Table.Acceptance
import LexTable.Render.StyleSetting

/-!
# Style settings

A text is a style setting if what stands before its first equals sign names a kind. Settings are
made in order, so the first text that is no style setting is the one that is reported.
-/

namespace LexTable

namespace StyleSetting

/-- The setting gives the kind the style: a name of the kind, the first equals sign and the style,
with or without blanks around the two. -/
def Sets (setting : String) (kind : Kind) (style : String) : Prop :=
  ∃ name value, setting.toList = name ++ '=' :: value ∧ '=' ∉ name ∧
    Kind.Named (String.ofList (Text.trimWhiteSpace name)) kind ∧
    style = String.ofList (Text.trimWhiteSpace value)

def Valid (setting : String) : Prop :=
  ∃ kind style, Sets setting kind style

theorem takeWhile_append {name : List Char} (hname : '=' ∉ name) (rest : List Char) :
    (name ++ rest).takeWhile (· != '=') = name ++ rest.takeWhile (· != '=') := by
  apply List.takeWhile_append_of_pos
  intro c hc
  rw [bne_iff_ne]
  rintro rfl
  exact hname hc

/-- The first of the settings that is none. -/
def FirstInvalid (settings : List String) (setting : String) : Prop :=
  ∃ before after, settings = before ++ setting :: after ∧ (∀ earlier ∈ before, Valid earlier) ∧
    ¬ Valid setting

end StyleSetting

namespace Theme

open StyleSetting

end Theme

end LexTable
