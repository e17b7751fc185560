import ScreenFlow.Assets
import ScreenFlow.Screen
import ScreenFlow.State
import ScreenFlow.Template

/-!
# Snapshots

All that is needed to draw the active screen: its components in order, with texts rendered, pictures
found, and the value and error of each field.
-/

namespace ScreenFlow

/-- A component as it is shown. -/
inductive View
  | image (id source : String) (fitMode size : Option String)
  | textField (id binding : String) (label placeholder : Option String) (value : String)
      (error : Option String) (secure : Bool)
  | button (id text : String) (icon style width : Option String)
  | text (id text : String) (variant align : Option String)
  | spacer (id : String) (height : UInt32)
  | table (id : String) (columns : List Column) (rows : List (Bindings FreeForm))
  | unsupported (id : String)
  deriving DecidableEq

namespace View

/-- The height of a spacer that has none of its own. -/
def spacerHeight : UInt32 := 8

def id : View → String
  | image id .. | textField id .. | button id .. | text id .. | spacer id _ | table id ..
  | unsupported id => id

/-- How a component is shown in a state. -/
def ofComponent (component : Component) (state : State) (assets : Assets) : View :=
  match component.kind with
  | .image value => image component.id (value.source assets) value.fitMode value.size
  | .textField field =>
    let key := component.bindingKey
    textField component.id key field.label field.placeholder (state.value key)
      (state.errors.get? key) (field.dataType = .password)
  | .button value => button component.id value.text value.icon value.style value.width
  | .text caption =>
    text component.id (Template.render state.values caption.text) caption.variant caption.align
  | .spacer value => spacer component.id (value.height.getD spacerHeight)
  | .table value => table component.id value.columns value.rows
  | .unknown => unsupported component.id

/-- The kinds of view, by their tags. -/
def union : Union View where
  name := "ComponentView"
  tag := "type"
  variants :=
    [("image", .record "struct variant ComponentView::Image" <|
        Fields.make image
          |>.required "id" .text
          |>.required "src" .text
          |>.nullable "fit_mode" .text
          |>.nullable "size" .text),
      ("text_field", .record "struct variant ComponentView::TextField" <|
        Fields.make textField
          |>.required "id" .text
          |>.required "binding" .text
          |>.nullable "label" .text
          |>.nullable "placeholder" .text
          |>.required "value" .text
          |>.nullable "error" .text
          |>.required "secure" .flag),
      ("button", .record "struct variant ComponentView::Button" <|
        Fields.make button
          |>.required "id" .text
          |>.required "text" .text
          |>.nullable "icon" .text
          |>.nullable "style" .text
          |>.nullable "width" .text),
      ("text", .record "struct variant ComponentView::Text" <|
        Fields.make text
          |>.required "id" .text
          |>.required "text" .text
          |>.nullable "text_variant" .text
          |>.nullable "align" .text),
      ("spacer", .record "struct variant ComponentView::Spacer" <|
        Fields.make spacer
          |>.required "id" .text
          |>.required "height" .word32),
      ("table", .record "struct variant ComponentView::Table" <|
        Fields.make table
          |>.required "id" .text
          |>.required "columns" (.list Column.reader)
          |>.required "rows" (.list (.bindings .freeForm))),
      ("unsupported", .record "struct variant ComponentView::Unsupported" <|
        Fields.make unsupported
          |>.required "id" .text)]
  fallback := none

def reader : Reader View := union.reader

/-- The tag that a view is written with. -/
def tag : View → String
  | image .. => "image"
  | textField .. => "text_field"
  | button .. => "button"
  | text .. => "text"
  | spacer .. => "spacer"
  | table .. => "table"
  | unsupported _ => "unsupported"

/-- The members besides tag and id. -/
def members : View → List (String × Json)
  | image _ source fitMode size =>
    Json.always "src" (.str source) ++ Json.whenSome "fit_mode" .str fitMode ++
      Json.whenSome "size" .str size
  | textField _ binding label placeholder value error secure =>
    Json.always "binding" (.str binding) ++ Json.whenSome "label" .str label ++
      Json.whenSome "placeholder" .str placeholder ++ Json.always "value" (.str value) ++
      Json.whenSome "error" .str error ++ Json.always "secure" (.bool secure)
  | button _ content icon style width =>
    Json.always "text" (.str content) ++ Json.whenSome "icon" .str icon ++
      Json.whenSome "style" .str style ++ Json.whenSome "width" .str width
  | text _ content variant align =>
    Json.always "text" (.str content) ++ Json.whenSome "text_variant" .str variant ++
      Json.whenSome "align" .str align
  | spacer _ height => Json.always "height" (.nat height.toNat)
  | table _ columns rows =>
    Json.always "columns" (.list Column.write columns) ++
      Json.always "rows" (.list (.map FreeForm.json) rows)
  | unsupported _ => []

def write (view : View) : Json :=
  .obj (Json.always "type" (.str view.tag) ++ Json.always "id" (.str view.id) ++ view.members)

end View

/-- The active screen as it is shown. -/
structure Snapshot where
  screenId : String
  title : Option String
  layout : Layout
  components : List View
  values : Bindings String
  errors : Bindings String
  deriving DecidableEq

namespace Snapshot

/-- How a screen is shown in a state. -/
def ofScreen (screen : Screen) (state : State) (assets : Assets) : Snapshot where
  screenId := screen.id
  title := screen.title
  layout := screen.layout
  components := screen.components.map fun component => .ofComponent component state assets
  values := state.values
  errors := state.errors

/-- What is reported of showing a screen. -/
def report (screen : Screen) (assets : Assets) : List Diagnostic :=
  (screen.components.filterMap Component.image?).flatMap (·.sourceReport assets)

/-- The first view of an id. -/
def component? (snapshot : Snapshot) (id : String) : Option View :=
  snapshot.components.find? (·.id = id)

def fields : Fields Snapshot :=
  Fields.make Snapshot.mk
    |>.required "screen_id" .text
    |>.nullable "title" .text
    |>.required "layout" Layout.reader
    |>.required "components" (.list View.reader)
    |>.required "values" (.bindings .text)
    |>.required "errors" (.bindings .text)

def reader : Reader Snapshot := fields.reader "struct Snapshot"

def write (snapshot : Snapshot) : Json :=
  .obj (Json.always "screen_id" (.str snapshot.screenId) ++
    Json.whenSome "title" .str snapshot.title ++ Json.always "layout" snapshot.layout.write ++
    Json.always "components" (.list View.write snapshot.components) ++
    Json.always "values" (.map .str snapshot.values) ++
    Json.always "errors" (.map .str snapshot.errors))

end Snapshot

end ScreenFlow
