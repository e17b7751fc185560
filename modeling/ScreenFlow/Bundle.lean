import ScreenFlow.Assets.Loading
import ScreenFlow.Reader.Whole
import ScreenFlow.Specification.Resolution

/-!
# Bundles

A bundle is a directory with a document and its assets, or a document alone with assets next to it.
-/

namespace ScreenFlow

/-- A resolved document and its assets. -/
structure Bundle where
  specification : Specification
  assets : Assets

/-- Why a bundle is not loaded. -/
inductive BundleFault
  | notFound (path : String) (cause : DiskFault)
  | unreadable (document : String) (cause : DiskFault)
  | unparsable (document : String) (cause : Fault)
  | unresolved (cause : ResolutionError)
  | assets (cause : AssetFault)

namespace Bundle

/-- The name of the document in a bundle directory. -/
def documentName : String := "bundle.json"

/-- The path of a bundle by that name in the data directory. -/
def stored (dataDirectory bundle : String) : String :=
  Path.join (Path.join dataDirectory "bundles") bundle

/-- The path of a bundle: as it is given, or else in the data directory. -/
def locate (disk : Disk) (dataDirectory bundle : String) : String :=
  if disk.has bundle || Path.isAbsolute bundle then bundle else stored dataDirectory bundle

/-- The directory with the assets of a document that stands alone. -/
def assetDirectory (document : String) : String :=
  let directory := Path.directory document
  if directory.isEmpty then "." else directory

/-- Where a bundle keeps its document and its assets. -/
structure Places where
  document : String
  text : Except DiskFault String
  search : Assets.Search
  assetRoot : String

/-- The document and the assets of what stands at a path. -/
def places (path : String) : Node → Places
  | .file content => ⟨path, (Node.file content).text, .document, assetDirectory path⟩
  | .directory entries =>
    { document := Path.join path documentName
      text :=
        if Path.isLong (Path.join path documentName) then .error .nameTooLong
        else
          match Entries.named? entries documentName with
          | some document => document.text
          | none => .error .missing
      search := .bundle
      assetRoot := path }

/-- The document of a bundle. -/
def Places.read (places : Places) : Except BundleFault Document := do
  let text ← places.text.mapError (.unreadable places.document)
  (Document.reader.ofText text).mapError (.unparsable places.document)

/-- Where the bundle at a path keeps its parts. -/
def placesAt (disk : Disk) (path : String) : Except BundleFault Places :=
  ((disk path).map (places path)).mapError (.notFound path)

/-- The bundle at a path; `initial` overrides the initial screen of its document. -/
def load (disk : Disk) (path : String) (initial : Option String) : Except BundleFault Bundle := do
  let places ← placesAt disk path
  let document ← places.read
  let specification ← (document.resolve initial).mapError .unresolved
  let assets ← (Assets.load disk places.search places.assetRoot).mapError .assets
  return ⟨specification, assets⟩

/-- What is reported of a bundle that is loaded. -/
def summary (bundle : Bundle) (path : String) : Diagnostic :=
  .bundleLoaded path bundle.specification.screens.length bundle.specification.rules.length
    bundle.specification.transitions.length bundle.assets.size

/-- What is reported of loading the bundle at a path. -/
def loadReport (disk : Disk) (path : String) (initial : Option String) : List Diagnostic :=
  match placesAt disk path with
  | .error _ => []
  | .ok places =>
    match places.read with
    | .error _ => []
    | .ok document =>
      document.resolutionReport initial ++
        match document.resolve initial with
        | .error _ => []
        | .ok _ =>
          Assets.loadReport disk places.search places.assetRoot ++
            match load disk path initial with
            | .error _ => []
            | .ok bundle => [bundle.summary path]

end Bundle

end ScreenFlow
