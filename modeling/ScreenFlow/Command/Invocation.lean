/-!
# Invocations

What the words of a command line ask for. The words before the name of a task and those after it form
two levels; the options of both levels are the same but for the screen, and where a level of its own
says nothing, the outer one counts. Words are read from left to right, and the first one that stops
the reading decides.
-/

namespace ScreenFlow

/-- What is to be done. -/
inductive Task
  | check (bundle : String)
  | view (bundle : String) (screen : Option String)
  | run (bundle : String) (screen : Option String)
  deriving DecidableEq

/-- What a command line asks for. -/
structure Invocation where
  verbosity : Nat
  dataDirectory : Option String
  task : Option Task
  deriving DecidableEq

/-- Why a command line is no invocation. -/
inductive Aside
  | help
  | version
  | misuse
  deriving DecidableEq

namespace Invocation

/-! ## Words -/

/-- A word of a command line. -/
inductive Word
  /-- The word after which all others are operands. -/
  | separator
  | long (name : String) (value : Option String)
  | short (letters : List Char)
  | operand (text : String)
  deriving DecidableEq

namespace Word

def ofText (text : String) : Word :=
  match text.toList with
  | ['-', '-'] => separator
  | '-' :: '-' :: rest =>
    match rest.dropWhile (· ≠ '=') with
    | _ :: value => long (String.ofList (rest.takeWhile (· ≠ '='))) (some (String.ofList value))
    | [] => long (String.ofList rest) none
  | '-' :: letter :: letters => short (letter :: letters)
  | _ => operand text

/-- Whether a word can be the value of the option before it. -/
def isOperand : Word → Bool
  | operand _ => true
  | _ => false

end Word

/-! ## Levels -/

/-- The name of a task. -/
inductive Verb
  | check
  | view
  | run
  deriving DecidableEq

def Verb.ofText? : String → Option Verb
  | "check" => some .check
  | "view" => some .view
  | "run" => some .run
  | _ => none

/-- Whether a task is for one screen. -/
def Verb.takesScreen : Verb → Bool
  | .check => false
  | .view | .run => true

/-- What the words of one level say. -/
structure Level where
  verb : Option Verb
  verbosity : Nat
  dataDirectory : Option String
  screen : Option String
  bundle : Option String

namespace Level

/-- A level of which no word is read. -/
def start (verb : Option Verb) : Level := ⟨verb, 0, none, none, none⟩

/-- Take the letters of a word of flags. -/
def flags (level : Level) : List Char → Except Aside Level
  | [] => .ok level
  | 'v' :: letters => flags { level with verbosity := level.verbosity + 1 } letters
  | 'h' :: _ => .error .help
  | 'V' :: _ => if level.verb.isNone then .error .version else .error .misuse
  | _ => .error .misuse

/-- Take a flag that is spelled out. -/
def flag (level : Level) : String → Except Aside Level
  | "verbose" => level.flags ['v']
  | "help" => level.flags ['h']
  | "version" => level.flags ['V']
  | _ => .error .misuse

/-- Whether an option has a value. -/
def takesValue (level : Level) (name : String) : Bool :=
  name = "data-dir" || (name = "screen" && level.verb.any Verb.takesScreen)

/-- Take an option with its value; no option is given twice, and a directory has a name. -/
def option (level : Level) (name value : String) : Except Aside Level :=
  if !level.takesValue name then .error .misuse
  else if name = "screen" then
    if level.screen.isSome then .error .misuse else .ok { level with screen := some value }
  else if level.dataDirectory.isSome || value.isEmpty then .error .misuse
  else .ok { level with dataDirectory := some value }

/-- Take the bundle, which has a name. -/
def operand (level : Level) (text : String) : Except Aside Level :=
  if level.verb.isNone || level.bundle.isSome || text.isEmpty then .error .misuse
  else .ok { level with bundle := some text }

/-- The task of a level, if it has one; every task is for a bundle. -/
def task? (level : Level) : Except Aside (Option Task) :=
  match level.verb, level.bundle with
  | none, _ => .ok none
  | some _, none => .error .misuse
  | some .check, some bundle => .ok (some (.check bundle))
  | some .view, some bundle => .ok (some (.view bundle level.screen))
  | some .run, some bundle => .ok (some (.run bundle level.screen))

/-- The invocation of a level inside of another one. -/
def invocation (outer inner : Level) : Except Aside Invocation := do
  let task ← inner.task?
  return ⟨if inner.verbosity = 0 then outer.verbosity else inner.verbosity,
    inner.dataDirectory <|> outer.dataDirectory, task⟩

/-- Take one word other than the name of a task; `next` is the word after it. The result says
whether that one is taken too. -/
def take (level : Level) (word : Word) (next : Option String) : Except Aside (Level × Bool) :=
  match word with
  | .separator => .ok (level, false)
  | .short letters => (level.flags letters).map (·, false)
  | .operand text => (level.operand text).map (·, false)
  | .long name (some value) => (level.option name value).map (·, false)
  | .long name none =>
    if level.takesValue name then
      match next with
      | some value =>
        if (Word.ofText value).isOperand then (level.option name value).map (·, true)
        else .error .misuse
      | none => .error .misuse
    else (level.flag name).map (·, false)

end Level

/-! ## Command lines -/

/-- What follows a request for help: at most the name of a task, or of that request. -/
def helpOn : List String → Aside
  | [] | ["help"] => .help
  | [word] => if (Verb.ofText? word).isSome then .help else .misuse
  | _ => .misuse

/-- Read the words of the innermost level; `outer` is the level around it. -/
def ofWords (outer level : Level) : List String → Except Aside Invocation
  | [] => outer.invocation level
  | word :: words =>
    match Word.ofText word, level.verb with
    | .separator, _ => do outer.invocation (← words.foldlM Level.operand level)
    | .operand "help", none => .error (helpOn words)
    | .operand name, none =>
      match Verb.ofText? name with
      | some verb => ofWords level (.start (some verb)) words
      | none => .error .misuse
    | word, _ =>
      match words with
      | [] => do
        let (level, _) ← level.take word none
        outer.invocation level
      | next :: rest => do
        let (level, both) ← level.take word (some next)
        if both then ofWords outer level rest else ofWords outer level (next :: rest)

/-- What a command line asks for. -/
def ofArguments (words : List String) : Except Aside Invocation :=
  ofWords (.start none) (.start none) words

end Invocation

end ScreenFlow
