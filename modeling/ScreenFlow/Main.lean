import ScreenFlow.Command.Console
import ScreenFlow.Command.LogFilter

/-!
# The program

Reads the command line, the disk, and the lines of the standard input. What is done with them is said
by `ScreenFlow.Console`.
-/

namespace ScreenFlow

/-! ## The disk -/

/-- What an error says of the disk. -/
def DiskFault.ofError : IO.Error → DiskFault
  | .noFileOrDirectory .. => .missing
  | .invalidArgument (some _) 36 _ => .nameTooLong
  | error => .other (toString error)

/-- Whether a bundle needs what is in a file. -/
def isNeeded (name : String) : Bool := Assets.isAsset name || name = Bundle.documentName

/-- The entries of a directory. Other directories are only opened if `opens` says so, and then with
all that is below them; files that no bundle needs are left empty. -/
partial def surveyDirectory (opens : String → Bool) (path : String) : IO Entries := do
  let entries ← (IO.FS.DirEntry.mk path "").root.readDir
  entries.toList.mapM fun entry => do
    let node ←
      match (← entry.path.symlinkMetadata).type with
      | .dir =>
        if opens entry.fileName then
          Node.directory <$> surveyDirectory (fun _ => true) (Path.join path entry.fileName)
        else pure (.directory [])
      | _ =>
        if isNeeded entry.fileName then Node.file <$> IO.FS.readBinFile entry.path
        else pure (.file .empty)
    return (entry.fileName.toUTF8, node)

/-- What stands at the path of a bundle, and around a document that stands alone. -/
def survey (path : String) : IO (List (String × Node)) := do
  if (← (IO.FS.DirEntry.mk path "").root.metadata).type == .dir then
    return [(path, .directory (← surveyDirectory (fun _ => true) path))]
  else
    let root := Bundle.assetDirectory path
    return [(path, .file (← IO.FS.readBinFile path)),
      (root, .directory (← surveyDirectory (· = imageDirectory) root))]

/-- The disk, as far as the bundles at some paths need it. -/
def lookAt (paths : List String) : IO Disk := do
  let mut known : List (String × Except DiskFault Node) := []
  for path in paths do
    try
      known := known ++ (← survey path).map fun found => (found.1, .ok found.2)
    catch error =>
      known := known ++ [(path, .error (.ofError error))]
  let found := known
  return fun path => (found.lookup path).getD (.error .missing)

/-- The bundle that a task is for. -/
def Task.bundle : Task → String
  | check bundle | view bundle _ | run bundle _ => bundle

/-- The paths at which the bundle of an invocation may be. -/
def Invocation.bundlePaths (invocation : Invocation) (home : Option String) : List String :=
  match invocation.task with
  | none => []
  | some task =>
    task.bundle ::
      match (Console.dataDirectory invocation home).ended with
      | .ok directory => [Bundle.stored directory task.bundle]
      | .error _ => []

/-! ## Input and output -/

/-- Bring out what a command brings out, as far as the filter admits it. -/
def bringOut (filter : LogFilter) (emitted : List Emission) : IO Unit := do
  for emission in emitted do
    match emission with
    | .line text =>
      IO.println text
      (← IO.getStdout).flush
    | .report diagnostic during =>
      if filter.admits diagnostic during then IO.eprintln diagnostic.text
    | .operation operation => IO.eprintln ("operation: " ++ operation.write.compact)

/-- Read one line with the end of line that closes it; it is empty at the end of the input. -/
partial def readLine (input : IO.FS.Stream) (line : ByteArray) : IO ByteArray := do
  let byte ← input.read 1
  if byte.isEmpty then return line
  if byte.toList = [0x0A] then return line ++ byte
  readLine input (line ++ byte)

/-- The exit status of a command that has failed. -/
def fail (failure : Failure) : IO UInt32 := do
  IO.eprintln ("Error: " ++ failure.report)
  return 1

/-- Pass the lines of the input on to a session. -/
partial def converse (filter : LogFilter) (input : IO.FS.Stream) (session : Session) :
    IO UInt32 := do
  let line ← readLine input .empty
  if line.isEmpty then return 0
  let answer := Console.answer session line
  bringOut filter answer.emitted
  match answer.ended with
  | .ok session => converse filter input session
  | .error failure => fail failure

/-- Do what an invocation asks for. -/
def execute (invocation : Invocation) : IO UInt32 := do
  let home := (← IO.getEnv "HOME").filter (!·.isEmpty)
  let some filter := LogFilter.choose (← IO.getEnv "RUST_LOG") invocation.verbosity
    | return Console.unfilteredStatus
  let disk ← lookAt (invocation.bundlePaths home)
  let prepared := Console.prepare disk home invocation
  bringOut filter prepared.emitted
  match prepared.ended with
  | .error failure => fail failure
  | .ok none => return 0
  | .ok (some session) => converse filter (← IO.getStdin) session

end ScreenFlow

def main (arguments : List String) : IO UInt32 := do
  match ScreenFlow.Invocation.ofArguments arguments with
  | .ok invocation => ScreenFlow.execute invocation
  | .error .help =>
    IO.println ScreenFlow.Console.help
    return 0
  | .error .version =>
    IO.println ScreenFlow.Console.version
    return 0
  | .error .misuse =>
    IO.eprintln ScreenFlow.Console.help
    return 2
