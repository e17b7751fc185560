import ScreenFlow.Json.Members
import ScreenFlow.Reader.Fields
import ScreenFlow.Reader.Name

/-!
# Layouts

How a screen arranges its components. Nothing here is interpreted; it is handed to whoever draws the
screen.
-/

namespace ScreenFlow

/-- The direction of a layout; one that is not known keeps its name. -/
inductive Orientation
  | vertical
  | horizontal
  | other (name : String) (unknown : name ∉ ["vertical", "horizontal"])
  deriving DecidableEq

namespace Orientation

def name : Orientation → String
  | vertical => "vertical"
  | horizontal => "horizontal"
  | other name _ => name

def ofName (name : String) : Orientation :=
  if h : name ∈ ["vertical", "horizontal"] then
    if name = "vertical" then vertical else horizontal
  else other name h

@[simp] theorem ofName_name : ∀ orientation : Orientation, ofName orientation.name = orientation
  | vertical | horizontal => by decide
  | other name h => by
    show ofName name = _
    rw [ofName, dif_neg h]

def reader : Reader Orientation := .openName "Orientation" ["vertical", "horizontal"] ofName

def write (orientation : Orientation) : Json := .str orientation.name

end Orientation

/-- How a screen arranges its components. -/
structure Layout where
  orientation : Orientation
  padding : Option String
  spacing : Option String
  horizontalAlignment : Option String
  align : Option String
  deriving DecidableEq

namespace Layout

/-- The layout of a screen that has none of its own. -/
def standard : Layout := ⟨.vertical, none, none, none, none⟩

def fields : Fields Layout :=
  Fields.make Layout.mk
    |>.defaulted "type" Orientation.reader .vertical
    |>.optional "padding" .text
    |>.optional "spacing" .text
    |>.optional "horizontal_alignment" .text
    |>.optional "align" .text

def reader : Reader Layout := fields.reader "struct Layout"

def write (layout : Layout) : Json :=
  .obj (Json.always "type" layout.orientation.write ++
    Json.whenSome "padding" .str layout.padding ++ Json.whenSome "spacing" .str layout.spacing ++
    Json.whenSome "horizontal_alignment" .str layout.horizontalAlignment ++
    Json.whenSome "align" .str layout.align)

end Layout

end ScreenFlow
