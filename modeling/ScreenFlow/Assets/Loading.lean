import ScreenFlow.Assets
import ScreenFlow.FileTree
import ScreenFlow.Text.Decoding

/-!
# Loading assets

The assets of a bundle directory are all files below it whose names say that they are assets. Those
of a document that stands alone are the ones next to it and the ones below the image directory next
to it; no other directory there is looked into.
-/

namespace ScreenFlow

/-- The directory of images in a bundle. -/
def imageDirectory : String := "images_base64"

/-- Why assets are not loaded: a path, and what is wrong there. -/
structure AssetFault where
  path : String
  cause : DiskFault
  deriving DecidableEq

def AssetFault.message (fault : AssetFault) : String :=
  "failed to load asset '" ++ fault.path ++ "': " ++ fault.cause.message

namespace Assets

/-- Whether a file is an asset. -/
def isAsset (path : String) : Bool := path.endsWith Image.assetSuffix

/-- The asset that has been found below `root`, if it is one: a file with a path that is a text. A
directory has to be opened to look for assets there. -/
def ofFound (root : String) : List ByteArray × Node → Except AssetFault (Option (String × String))
  | (names, .directory _) =>
    if Path.isLongBelow root names then .error ⟨Text.repair (Path.below root names), .nameTooLong⟩
    else .ok none
  | (names, .file content) =>
    match (Path.ofNames? names).filter isAsset with
    | none => .ok none
    | some path =>
      if Path.isLongBelow root names then .error ⟨Path.join root path, .nameTooLong⟩
      else
        match (Node.file content).text with
        | .ok text => .ok (some (path, text))
        | .error cause => .error ⟨Path.join root path, cause⟩

/-- The assets among what has been found below `root`. -/
def ofAllFound (root : String) (found : List (List ByteArray × Node)) : Except AssetFault Assets := do
  return .ofList (← found.filterMapM (ofFound root))

/-- The entries of the directory at a path. -/
def entriesAt (path : String) (node : Node) : Except AssetFault Entries :=
  node.entries.mapError (⟨path, ·⟩)

/-- The assets of the bundle directory at `root`. -/
def ofBundle (root : String) (node : Node) : Except AssetFault Assets := do
  ofAllFound root (← entriesAt root node).descendants

/-- What is in the image directory, with the names that lead there from the directory around it. -/
def images (root : String) (entries : Entries) :
    Except AssetFault (List (List ByteArray × Node)) := do
  let path := Path.join root imageDirectory
  match if Path.isLong path then none else entries.named? imageDirectory with
  | none => return []
  | some node =>
    return (← entriesAt path node).descendants.map fun found =>
      (imageDirectory.toUTF8 :: found.1, found.2)

/-- The assets of a document in the directory at `root`. -/
def ofDocument (root : String) (node : Node) : Except AssetFault Assets := do
  let entries ← entriesAt root node
  let own ← ofAllFound root entries.files
  let images ← ofAllFound root (← images root entries)
  return own.insertAll images.entries

/-- The two ways to find assets. -/
inductive Search
  | bundle
  | document
  deriving DecidableEq

/-- The assets at a path; none if nothing is there. -/
def load (disk : Disk) (search : Search) (root : String) : Except AssetFault Assets :=
  match disk root, search with
  | .error _, _ => .ok .empty
  | .ok node, .bundle => ofBundle root node
  | .ok node, .document => ofDocument root node

/-- What is reported of loading the assets at a path. -/
def loadReport (disk : Disk) (search : Search) (root : String) : List Diagnostic :=
  if disk.has root then
    match load disk search root, search with
    | .error _, _ => []
    | .ok assets, .bundle => [.assetsLoaded root assets.size]
    | .ok assets, .document => [.candidatesLoaded root assets.size]
  else [.noAssetDirectory root]

end Assets

end ScreenFlow
