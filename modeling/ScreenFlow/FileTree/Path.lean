/-!
# Paths

A path is a text of components between slashes; one that starts with a slash counts from the top of
the tree, any other from the working directory.
-/

namespace ScreenFlow.Path

/-- Whether a path counts from the top. -/
def isAbsolute (path : String) : Bool := path.startsWith "/"

/-- A path below another one, unless it is absolute. -/
def join (base path : String) : String :=
  if isAbsolute path || base.isEmpty then path
  else if base.endsWith "/" then base ++ path
  else base ++ "/" ++ path

/-- The texts between the slashes of a path. -/
def componentChars : List Char → List (List Char)
  | [] => [[]]
  | '/' :: cs => [] :: componentChars cs
  | c :: cs =>
    match componentChars cs with
    | [] => [[c]]
    | component :: components => (c :: component) :: components

/-- The texts between the slashes of a path. -/
def components (path : String) : List String := (componentChars path.toList).map String.ofList

/-- Whether a component is too long to be a name: names have at most 255 bytes. -/
def isLongName (component : String) : Bool := 255 < component.utf8ByteSize

/-- The number of bytes that a path must not reach. -/
def limit : Nat := 4096

/-- Whether a path is too long to be looked up. -/
def isLong (path : String) : Bool := limit ≤ path.utf8ByteSize

/-- The bytes of the path along some names, from a directory on. -/
def below (root : String) (names : List ByteArray) : ByteArray :=
  (names.intersperse "/".toUTF8).foldl (· ++ ·) (join root "").toUTF8

/-- Whether the path along some names is too long to be looked up. -/
def isLongBelow (root : String) (names : List ByteArray) : Bool := limit ≤ (below root names).size

/-- The path along some names as a text, if all of them are texts. -/
def ofNames? (names : List ByteArray) : Option String :=
  (names.mapM String.fromUTF8?).map "/".intercalate

/-- A path from its end on, without what adds nothing there: slashes, and dots that stand alone. -/
def dropIdle : List Char → List Char
  | ['/'] => ['/']
  | '/' :: cs => dropIdle cs
  | '.' :: '/' :: cs => dropIdle ('/' :: cs)
  | cs => cs

/-- The path of the directory in which a file stands; empty if the path is a name alone. -/
def directory (file : String) : String :=
  String.ofList (dropIdle (file.toList.reverse.dropWhile (· ≠ '/'))).reverse

end ScreenFlow.Path
