import ScreenFlow.Diagnostic
import ScreenFlow.Screen.Component
import ScreenFlow.Text.Blank

/-!
# Assets

Base64 texts of pictures, by the path under which a document refers to them. A picture is an inline
payload, a reference to an asset, or base64 itself.
-/

namespace ScreenFlow

/-- The base64 texts of a bundle, by path. -/
abbrev Assets := Bindings String

namespace Image

/-- The end of the name of an asset. -/
def assetSuffix : String := ".b64.txt"

/-- The start of a payload that can be shown as it is. -/
def payloadScheme : String := "data:"

/-- What makes a payload of base64. -/
def payloadHeader : String := "data:image/png;base64,"

/-- Where the assets of a bundle are looked for. -/
def assetDirectories : List String := ["", "images_base64/"]

/-- A reference without the `./` at its front. -/
def assetName (file : String) : String :=
  match file.toList with
  | '.' :: '/' :: name => String.ofList name
  | _ => file

/-- The first asset of a name that is not blank, without blanks at either end. -/
def asset? (assets : Assets) (name : String) : Option String :=
  ((assetDirectories.filterMap fun directory => assets.get? (directory ++ name)).find?
    (!Text.allBlank ·)).map Text.trim

/-- What an image refers to. -/
inductive Reference
  | nothing
  | payload (text : String)
  | asset (name : String)
  | base64 (text : String)
  deriving DecidableEq

/-- What an image refers to. -/
def reference (image : Image) : Reference :=
  match image.file with
  | none => .nothing
  | some file =>
    if file = "" then .nothing
    else if payloadScheme.toList.isPrefixOf file.toList then .payload file
    else if assetSuffix.toList.isSuffixOf file.toList then .asset (assetName file)
    else .base64 file

/-- The payload that shows an image; empty when there is nothing to show. -/
def source (image : Image) (assets : Assets) : String :=
  match image.reference with
  | .nothing => ""
  | .payload text => text
  | .asset name => ((asset? assets name).map (payloadHeader ++ ·)).getD ""
  | .base64 text => payloadHeader ++ text

/-- What is reported of showing an image: an asset that is not there. -/
def sourceReport (image : Image) (assets : Assets) : List Diagnostic :=
  match image.reference with
  | .asset name => if (asset? assets name).isSome then [] else [.assetMissing name]
  | _ => []

end Image

end ScreenFlow
