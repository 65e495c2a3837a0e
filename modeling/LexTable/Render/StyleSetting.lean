import LexTable.Render.Theme
import LexTable.Text.Quoted
import LexTable.Text.Trim

/-!
# Style settings

A style setting is a text such as `Keyword.Constant=35`: the name of a kind, an equals sign and
the style of the kind. Blanks around either part do not count.
-/

namespace LexTable

/-- A text that is no style setting. -/
structure InvalidStyle where
  text : String
  deriving DecidableEq

def InvalidStyle.message (error : InvalidStyle) : String :=
  "invalid style " ++ Text.quote error.text ++ ", expected `Category=SGR`"

/-- The kind and the style of a setting. -/
def StyleSetting.read (setting : String) : Except InvalidStyle (Kind × String) :=
  let cs := setting.toList
  let name := cs.takeWhile (· != '=')
  match cs.drop name.length, Kind.ofName? (String.ofList (Text.trimWhiteSpace name)) with
  | _ :: style, some kind => .ok (kind, String.ofList (Text.trimWhiteSpace style))
  | _, _ => .error ⟨setting⟩

/-- The theme with the settings made in their order. -/
def Theme.adjust (theme : Theme) (settings : List String) : Except InvalidStyle Theme := do
  let styles ← settings.mapM StyleSetting.read
  .ok (theme.setAll styles)

end LexTable
