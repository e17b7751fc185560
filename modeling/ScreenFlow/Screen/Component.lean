import ScreenFlow.Json.Members
import ScreenFlow.Reader.Name
import ScreenFlow.Reader.Union

/-!
# Components

What stands on a screen. A component of a type that is not known is kept as `Component.Kind.unknown`,
and a data type that is not known keeps its name.
-/

namespace ScreenFlow

/-! ## Data types -/

/-- What a text field asks for. Only the first two have a check of their own. -/
inductive DataType
  | email
  | password
  | text
  | other (name : String) (unknown : name ∉ ["email", "password", "string"])
  deriving DecidableEq

namespace DataType

def name : DataType → String
  | email => "email"
  | password => "password"
  | text => "string"
  | other name _ => name

def ofName (name : String) : DataType :=
  if h : name ∈ ["email", "password", "string"] then
    if name = "email" then email else if name = "password" then password else text
  else other name h

@[simp] theorem ofName_name : ∀ type : DataType, ofName type.name = type
  | email | password | text => by decide
  | other name h => by
    show ofName name = _
    rw [ofName, dif_neg h]

def reader : Reader DataType :=
  .openName "DataType" ["email", "password", "string"] ofName

def write (type : DataType) : Json := .str type.name

end DataType

/-! ## Contents -/

/-- A picture: an inline payload, a base64 asset or bare base64. -/
structure Image where
  file : Option String
  fitMode : Option String
  size : Option String
  deriving DecidableEq

/-- Bounds on a text field's value. -/
structure Validations where
  minLength : Option UInt64
  deriving DecidableEq

/-- A field to type into. -/
structure TextField where
  label : Option String
  placeholder : Option String
  dataModel : Option String
  dataType : DataType
  required : Bool
  validations : Validations
  deriving DecidableEq

/-- Something to click on. -/
structure Button where
  text : String
  icon : Option String
  style : Option String
  width : Option String
  deriving DecidableEq

/-- A text with tokens for bound values. -/
structure Caption where
  text : String
  variant : Option String
  align : Option String
  deriving DecidableEq

/-- An empty space. -/
structure Spacer where
  height : Option UInt32
  deriving DecidableEq

/-- A column of a table. -/
structure Column where
  id : String
  title : String
  deriving DecidableEq

/-- A table; its rows are free-form. -/
structure Table where
  columns : List Column
  rows : List (Bindings FreeForm)
  deriving DecidableEq

namespace Image

def fields : Fields Image :=
  Fields.make Image.mk
    |>.optional "file" .text
    |>.optional "fit_mode" .text
    |>.optional "size" .text

def reader : Reader Image := fields.reader "struct ImageSpec"

def members (image : Image) : List (String × Json) :=
  Json.whenSome "file" .str image.file ++ Json.whenSome "fit_mode" .str image.fitMode ++
    Json.whenSome "size" .str image.size

def write (image : Image) : Json := .obj image.members

end Image

namespace Validations

def fields : Fields Validations := Fields.make Validations.mk |>.optional "min_length" .word64

def reader : Reader Validations := fields.reader "struct Validations"

def write (validations : Validations) : Json :=
  .obj (Json.whenSome "min_length" (fun length => .nat length.toNat) validations.minLength)

end Validations

namespace TextField

def fields : Fields TextField :=
  Fields.make TextField.mk
    |>.optional "label" .text
    |>.optional "placeholder" .text
    |>.optional "data_model" .text
    |>.defaulted "data_type" DataType.reader .text
    |>.defaulted "required" .flag false
    |>.defaulted "validations" Validations.reader ⟨none⟩

def reader : Reader TextField := fields.reader "struct TextFieldSpec"

def members (field : TextField) : List (String × Json) :=
  Json.whenSome "label" .str field.label ++ Json.whenSome "placeholder" .str field.placeholder ++
    Json.whenSome "data_model" .str field.dataModel ++
    Json.always "data_type" field.dataType.write ++ Json.always "required" (.bool field.required) ++
    Json.always "validations" field.validations.write

def write (field : TextField) : Json := .obj field.members

end TextField

namespace Button

def fields : Fields Button :=
  Fields.make Button.mk
    |>.defaulted "text" .text ""
    |>.optional "icon" .text
    |>.optional "style" .text
    |>.optional "width" .text

def members (button : Button) : List (String × Json) :=
  Json.always "text" (.str button.text) ++ Json.whenSome "icon" .str button.icon ++
    Json.whenSome "style" .str button.style ++ Json.whenSome "width" .str button.width

end Button

namespace Caption

def fields : Fields Caption :=
  Fields.make Caption.mk
    |>.defaulted "text" .text ""
    |>.optional "text_variant" .text
    |>.optional "align" .text

def members (caption : Caption) : List (String × Json) :=
  Json.always "text" (.str caption.text) ++ Json.whenSome "text_variant" .str caption.variant ++
    Json.whenSome "align" .str caption.align

end Caption

namespace Spacer

def fields : Fields Spacer := Fields.make Spacer.mk |>.optional "height" .word32

def members (spacer : Spacer) : List (String × Json) :=
  Json.whenSome "height" (fun height => .nat height.toNat) spacer.height

end Spacer

namespace Column

def fields : Fields Column :=
  Fields.make Column.mk |>.required "id" .text |>.defaulted "title" .text ""

def reader : Reader Column := fields.reader "struct TableColumn"

def write (column : Column) : Json :=
  .obj (Json.always "id" (.str column.id) ++ Json.always "title" (.str column.title))

end Column

namespace Table

def fields : Fields Table :=
  Fields.make Table.mk
    |>.defaulted "columns" (.list Column.reader) []
    |>.defaulted "rows" (.list (.bindings .freeForm)) []

def reader : Reader Table := fields.reader "struct TableSpec"

def members (table : Table) : List (String × Json) :=
  Json.always "columns" (.list Column.write table.columns) ++
    Json.always "rows" (.list (.map FreeForm.json) table.rows)

def write (table : Table) : Json := .obj table.members

end Table

/-! ## Components -/

/-- What a component is. -/
inductive Component.Kind
  | image (image : Image)
  | textField (field : TextField)
  | button (button : Button)
  | text (caption : Caption)
  | spacer (spacer : Spacer)
  | table (table : Table)
  /-- A type that is not known. -/
  | unknown
  deriving DecidableEq

/-- A component of a screen. -/
structure Component where
  id : String
  kind : Component.Kind
  deriving DecidableEq

namespace Component

namespace Kind

/-- The types of component, by their tags. -/
def union : Union Kind where
  name := "ComponentKind"
  tag := "type"
  variants :=
    [("image", .record "struct ImageSpec" (Image.fields.map image)),
      ("text_field", .record "struct TextFieldSpec" (TextField.fields.map textField)),
      ("button", .record "struct ButtonSpec" (Button.fields.map button)),
      ("text", .record "struct TextSpec" (Caption.fields.map text)),
      ("spacer", .record "struct SpacerSpec" (Spacer.fields.map spacer)),
      ("table", .record "struct TableSpec" (Table.fields.map table))]
  fallback := some unknown

/-- The tag that a component is written with. -/
def tag : Kind → String
  | image _ => "image"
  | textField _ => "text_field"
  | button _ => "button"
  | text _ => "text"
  | spacer _ => "spacer"
  | table _ => "table"
  | unknown => "unknown"

/-- The members besides the tag. -/
def members : Kind → List (String × Json)
  | image value => value.members
  | textField value => value.members
  | button value => value.members
  | text value => value.members
  | spacer value => value.members
  | table value => value.members
  | unknown => []

end Kind

/-- A component is an object: its id, and all else as its kind. -/
def reader : Reader Component
  | origin, .obj members ending => do
    let id ← (Fields.single "id" .text).readMembers Draft.keepFault origin members ending
    let kind ← Kind.union.reader .buffer (.obj (members.filter (·.1 ≠ "id")) .closed)
    return ⟨id, kind⟩
  | _, .sealed .map _ => .error .malformed
  | _, draft => draft.refuse "struct Component"

def write (component : Component) : Json :=
  .obj (Json.always "id" (.str component.id) ++ Json.always "type" (.str component.kind.tag) ++
    component.kind.members)

/-! ## Views of a component -/

/-- The text field of a component that is one. -/
def textField? (component : Component) : Option TextField :=
  match component.kind with
  | .textField field => some field
  | _ => none

/-- The image of a component that is one. -/
def image? (component : Component) : Option Image :=
  match component.kind with
  | .image image => some image
  | _ => none

/-- Whether the component can be clicked. -/
def isButton (component : Component) : Bool :=
  match component.kind with
  | .button _ => true
  | _ => false

/-- The key under which the component's value is kept: a text field's data model, else the id. -/
def bindingKey (component : Component) : String :=
  match component.kind with
  | .textField field => field.dataModel.getD component.id
  | _ => component.id

end Component

end ScreenFlow
