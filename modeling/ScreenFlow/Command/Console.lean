import ScreenFlow.Command.Failure
import ScreenFlow.Command.Invocation
import ScreenFlow.Json.Printer
import ScreenFlow.Session

/-!
# The console

What the commands bring out, in order, and how they end. A session on the console shows the screen it
starts on, and after every line that holds a request the screen that is then active.
-/

namespace ScreenFlow

/-- Something that a command brings out. -/
inductive Emission
  /-- A line of its output. -/
  | line (text : String)
  /-- A diagnostic, with what the session is busy with. -/
  | report (diagnostic : Diagnostic) (during : List Activity)
  | operation (operation : Operation)

/-- What a command brings out, and how it ends. -/
structure Run (α : Type) where
  emitted : List Emission
  ended : Except Failure α

namespace Run

variable {α β : Type}

/-- Go on from a value, unless the command has failed. -/
def bind (run : Run α) (next : α → Run β) : Run β :=
  match run.ended with
  | .error failure => ⟨run.emitted, .error failure⟩
  | .ok value => ⟨run.emitted ++ (next value).emitted, (next value).ended⟩

instance : Monad Run where
  pure value := ⟨[], .ok value⟩
  bind := bind

/-- Bring out something. -/
def emit (emitted : List Emission) : Run Unit := ⟨emitted, .ok ()⟩

/-- Go on with a value, or fail. -/
def check {ε : Type} (failure : ε → Failure) (answer : Except ε α) : Run α :=
  ⟨[], answer.mapError failure⟩

/-- The lines of the output. -/
def lines (run : Run α) : List String :=
  run.emitted.filterMap fun
    | .line text => some text
    | _ => none

/-- The output. -/
def output (run : Run α) : String := String.join (run.lines.map (· ++ "\n"))

/-- What is reported, and what the session is busy with then. -/
def reports (run : Run α) : List (Diagnostic × List Activity) :=
  run.emitted.filterMap fun
    | .report diagnostic during => some (diagnostic, during)
    | _ => none

/-- The operations that are started. -/
def operations (run : Run α) : List Operation :=
  run.emitted.filterMap fun
    | .operation operation => some operation
    | _ => none

end Run

/-- Report diagnostics while no session is busy. -/
def report (diagnostics : List Diagnostic) : Run Unit := .emit (diagnostics.map (.report · []))

namespace Console

/-! ## Bundles and sessions -/

/-- Load the bundle at a path. -/
def openBundle (disk : Disk) (path : String) (initial : Option String) : Run Bundle := do
  report (Bundle.loadReport disk path initial)
  .check .bundle (Bundle.load disk path initial)

/-- Start a session on a bundle. -/
def startSession (bundle : Bundle) (screen : Option String) : Run Session := do
  let session ← .check .start (Session.start bundle.specification bundle.assets screen)
  report session.startReport
  return session

/-- The snapshot of the active screen. -/
def render (session : Session) : Run Snapshot := do
  report session.snapshotReport
  .check .render session.snapshot

/-! ## Tasks -/

/-- What a check says of a bundle. -/
def tally (path : String) (bundle : Bundle) : String :=
  path ++ ": " ++ toString bundle.specification.screens.length ++ " screens, " ++
    toString bundle.specification.rules.length ++ " rules, " ++
    toString bundle.specification.transitions.length ++ " transitions, " ++
    toString bundle.assets.size ++ " assets, starts on '" ++ bundle.specification.initialScreen ++ "'"

/-- Load a bundle and count what is in it. -/
def checkBundle (disk : Disk) (path : String) : Run Unit := do
  let bundle ← openBundle disk path none
  .emit [.line (tally path bundle)]

/-- Show a screen of a bundle. -/
def view (disk : Disk) (path : String) (screen : Option String) : Run Unit := do
  let bundle ← openBundle disk path none
  let session ← startSession bundle screen
  let snapshot ← render session
  .emit [.line snapshot.write.pretty]

/-- Start a session on a bundle and show its first screen. -/
def greet (disk : Disk) (path : String) (screen : Option String) : Run Session := do
  let bundle ← openBundle disk path screen
  let session ← startSession bundle none
  report [.readingRequests]
  let snapshot ← render session
  .emit [.line snapshot.write.compact]
  return session

/-- Pass a request on to a session. -/
def serve (session : Session) (request : Request) : Run Session := do
  let turn := session.handle request
  .emit ((session.handleReport request).map fun entry => .report entry.1 entry.2)
  .emit (turn.dispatched.map .operation)
  let snapshot ← .check .request turn.answer
  .emit [.line snapshot.write.compact]
  return session.withState turn.state

/-- The bytes of a line without the end that closes it: a line feed, or a carriage return and a line
feed. -/
def withoutEnd (line : List UInt8) : List UInt8 :=
  match line.reverse with
  | 0x0A :: 0x0D :: rest => rest.reverse
  | 0x0A :: rest => rest.reverse
  | _ => line

/-- Pass the request on a line on to a session. Blank lines and lines without a request are passed
over. -/
def answer (session : Session) (line : ByteArray) : Run Session := do
  let text ← .check .input (Text.decode (withoutEnd line.toList).toByteArray)
  let text := Text.trim text
  if text.isEmpty then return session
  match Request.reader.ofText text with
  | .error _ => do
    report [.requestSkipped]
    return session
  | .ok request => serve session request

/-- Pass the requests on all lines on to a session, in turn. -/
def answerAll (session : Session) (lines : List ByteArray) : Run Session :=
  lines.foldlM answer session

/-- A session on a bundle for the lines of an input. -/
def run (disk : Disk) (path : String) (screen : Option String) (lines : List ByteArray) :
    Run Session := do
  answerAll (← greet disk path screen) lines

/-! ## Lines -/

/-- The lines of an input, each with the end of line that closes it. -/
def lineBytes : List UInt8 → List (List UInt8)
  | [] => []
  | byte :: bytes =>
    if byte = 0x0A then [byte] :: lineBytes bytes
    else
      match lineBytes bytes with
      | [] => [[byte]]
      | line :: lines => (byte :: line) :: lines

/-- The lines of an input, each with the end of line that closes it. -/
def linesOf (input : ByteArray) : List ByteArray :=
  (lineBytes input.toList).map List.toByteArray

/-! ## Invocations -/

/-- What is said when there is no task. -/
def hint : String := "screenspec - use --help to see available commands"

/-- What is said when help is asked for. -/
def help : String :=
  "\n".intercalate
    ["Usage: screenspec [OPTIONS] [COMMAND]",
      "",
      "Commands:",
      "  check <BUNDLE>                    Load and resolve a bundle, reporting any structural error",
      "  view [--screen <SCREEN>] <BUNDLE>  Print the snapshot of a screen",
      "  run [--screen <SCREEN>] <BUNDLE>   Run a session, reading JSON requests from stdin one per line",
      "",
      "Options:",
      "      --data-dir <DATA_DIR>  Path to the data directory (default: ~/.screenspec)",
      "  -v, --verbose...           Increase log verbosity (-v info, -vv debug, -vvv trace)",
      "  -h, --help                 Print help",
      "  -V, --version              Print version"]

/-- The version of the program. -/
def version : String := "screenspec 0.0.1-alpha.0"

/-- The exit status when nothing is done because there is no filter for what is reported. -/
def unfilteredStatus : UInt32 := 101

/-- The data directory of an invocation: the one it names, or the one below the home directory. -/
def dataDirectory (invocation : Invocation) (home : Option String) : Run String :=
  match invocation.dataDirectory, home with
  | some directory, _ => pure directory
  | none, some home => pure (Path.join home ".screenspec")
  | none, none => ⟨[], .error .homeless⟩

/-- Do what an invocation asks for, up to the point where the lines of the input are due; then the
result is the session that they are for. -/
def prepare (disk : Disk) (home : Option String) (invocation : Invocation) :
    Run (Option Session) := do
  let directory ← dataDirectory invocation home
  match invocation.task with
  | none => do
    .emit [.line hint]
    return none
  | some (.check bundle) => do
    checkBundle disk (Bundle.locate disk directory bundle)
    return none
  | some (.view bundle screen) => do
    view disk (Bundle.locate disk directory bundle) screen
    return none
  | some (.run bundle screen) =>
    return some (← greet disk (Bundle.locate disk directory bundle) screen)

/-- Do all that an invocation asks for. -/
def execute (disk : Disk) (home : Option String) (invocation : Invocation) (input : ByteArray) :
    Run Unit := do
  match ← prepare disk home invocation with
  | none => return
  | some session => do
    let _ ← answerAll session (linesOf input)

end Console

end ScreenFlow
