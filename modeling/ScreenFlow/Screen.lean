import ScreenFlow.Screen.Component
import ScreenFlow.Screen.Layout

/-!
# Screens
-/

namespace ScreenFlow

/-- A screen of a document. -/
structure Screen where
  id : String
  title : Option String
  description : Option String
  layout : Layout
  components : List Component
  deriving DecidableEq

namespace Screen

def fields : Fields Screen :=
  Fields.make Screen.mk
    |>.required "id" .text
    |>.optional "title" .text
    |>.optional "description" .text
    |>.defaulted "layout" Layout.reader .standard
    |>.defaulted "components" (.list Component.reader) []

def reader : Reader Screen := fields.reader "struct Screen"

def write (screen : Screen) : Json :=
  .obj (Json.always "id" (.str screen.id) ++ Json.whenSome "title" .str screen.title ++
    Json.whenSome "description" .str screen.description ++
    Json.always "layout" screen.layout.write ++
    Json.always "components" (.list Component.write screen.components))

/-- The first component of an id. -/
def component? (screen : Screen) (id : String) : Option Component :=
  screen.components.find? (·.id = id)

/-- The text field bound to a key: the first in component order. -/
def textField? (screen : Screen) (key : String) : Option TextField :=
  (screen.components.filter (·.bindingKey = key)).findSome? Component.textField?

end Screen

end ScreenFlow
