import ScreenFlow.FileTree.Path

/-!
# File trees

The files and directories that bundles are loaded from, without links. A `Disk` says what stands at a
path; `Disk.ofTree` is the disk of one tree.
-/

namespace ScreenFlow

/-- Why a file or directory cannot be used. -/
inductive DiskFault
  | missing
  | notDirectory
  | isDirectory
  | notText
  | nameTooLong
  | other (message : String)
  deriving DecidableEq

def DiskFault.message : DiskFault → String
  | missing => "No such file or directory (os error 2)"
  | notDirectory => "Not a directory (os error 20)"
  | isDirectory => "Is a directory (os error 21)"
  | notText => "stream did not contain valid UTF-8"
  | nameTooLong => "File name too long (os error 36)"
  | other message => message

/-- A file with its bytes, or a directory with its entries by name. Names are bytes and need not be
text. -/
inductive Node
  | file (content : ByteArray)
  | directory (entries : List (ByteArray × Node))

/-- The entries of a directory. -/
abbrev Entries := List (ByteArray × Node)

namespace Node

instance : Inhabited Node := ⟨.directory []⟩

def isFile : Node → Bool
  | file _ => true
  | directory _ => false

/-- The text of a file. -/
def text : Node → Except DiskFault String
  | directory _ => .error .isDirectory
  | file content =>
    match String.fromUTF8? content with
    | some text => .ok text
    | none => .error .notText

/-- The entries of a directory. -/
def entries : Node → Except DiskFault Entries
  | directory entries => .ok entries
  | file _ => .error .notDirectory

/-- What the components of a path lead to from a node; `above` holds the directories around it, the
closest one first. -/
def walk (above : List Node) (node : Node) : List String → Except DiskFault Node
  | [] => .ok node
  | component :: components => do
    let entries ← node.entries
    if component = "" ∨ component = "." then walk above node components
    else if component = ".." then
      match above with
      | [] => walk [] node components
      | parent :: above => walk above parent components
    else if Path.isLongName component then throw .nameTooLong
    else
      match entries.lookup component.toUTF8 with
      | some next => walk (node :: above) next components
      | none => throw .missing

end Node

/-- The entry of a name. -/
def Entries.named? (entries : Entries) (name : String) : Option Node :=
  List.lookup name.toUTF8 entries

/-! ## Below a directory -/

mutual

/-- Everything below a directory, with the names that lead there. -/
def Entries.descendants : Entries → List (List ByteArray × Node)
  | [] => []
  | (name, node) :: entries =>
    (([], node) :: node.descendants).map (fun found => (name :: found.1, found.2)) ++
      Entries.descendants entries

/-- Everything below a node, with the names that lead there. -/
def Node.descendants : Node → List (List ByteArray × Node)
  | .file _ => []
  | .directory entries => Entries.descendants entries

end

/-- The files of a directory itself. -/
def Entries.files (entries : Entries) : List (List ByteArray × Node) :=
  Entries.descendants (entries.filter fun entry => entry.2.isFile)

/-! ## Disks -/

/-- What stands at each path. -/
abbrev Disk := String → Except DiskFault Node

/-- Whether there is anything at a path. -/
def Disk.has (disk : Disk) (path : String) : Bool := (disk path).isOk

/-- The disk of a tree, as it is seen from the directory at `here`. -/
def Disk.ofTree (top : Node) (here : String) : Disk := fun path =>
  if path.isEmpty then .error .missing
  else if Path.isLong path then .error .nameTooLong
  else top.walk [] (Path.components (Path.join here path))

end ScreenFlow
