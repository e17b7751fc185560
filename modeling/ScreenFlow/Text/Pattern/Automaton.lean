import ScreenFlow.Text.Pattern

/-!
# Automata of patterns

A pattern is run on the bytes of a text by threads, each of which is one way to go on. The threads are
in order of preference. One that is at the end of the pattern has taken what it has; those after it
are given up as soon as there is a further byte. A text fits if there is such a thread at its end, so
`a|ab` does not fit `ab`, while what is before a match does not matter: new threads start at every
byte for as long as none has come to the end.

No state is entered twice at the same place. This decides what is left of the empty turns of a
repetition.
-/

namespace ScreenFlow.Text

namespace Automaton

/-- What a thread is to do next. -/
inductive State
  | take (set : CharSet) (next : Nat)
  | skipByte (next : Nat)
  | fork (preferred other : Nat)
  | check (place : Place) (next : Nat)
  | finish

end Automaton

/-- The states of a pattern, and the one at which threads start. -/
structure Automaton where
  states : Array Automaton.State
  start : Nat

/-! ## States of patterns -/

namespace Pattern

/-- A fork of which the first way is preferred, if `eager`. -/
def forkOf (eager : Bool) (more enough : Nat) : Automaton.State :=
  if eager then .fork more enough else .fork enough more

/-- Add the states of a pattern after which `next` comes; the result begins with the first one. After
a turn of a repetition there is a fork for one more. What may be empty has a fork of its own for the
first turn. -/
def addStates : Pattern → (next : Nat) → Array Automaton.State → Nat × Array Automaton.State
  | empty, next, states => (next, states)
  | one set, next, states => (states.size, states.push (.take set next))
  | place asked, next, states => (states.size, states.push (.check asked next))
  | sequence first rest, next, states =>
    let (middle, states) := rest.addStates next states
    first.addStates middle states
  | choice first rest, next, states =>
    let (preferred, states) := first.addStates next states
    let (other, states) := rest.addStates next states
    (states.size, states.push (.fork preferred other))
  | optional inner eager, next, states =>
    let (more, states) := inner.addStates next states
    (states.size, states.push (forkOf eager more next))
  | star inner eager, next, states =>
    let (more, looped) := inner.addStates states.size (states.push .finish)
    let looped := looped.setIfInBounds states.size (forkOf eager more next)
    if inner.isBusy then (states.size, looped)
    else (looped.size, looped.push (forkOf eager more next))
  | plus inner eager, next, states =>
    let (more, looped) := inner.addStates states.size (states.push .finish)
    (more, looped.setIfInBounds states.size (forkOf eager more next))
  | group _ inner, next, states => inner.addStates next states

/-- The automaton of a pattern, which starts anew at every byte. -/
def automaton (pattern : Pattern) : Automaton :=
  let (first, states) := pattern.addStates 0 #[.finish]
  ⟨(states.push (.fork first (states.size + 1))).push (.skipByte states.size), states.size⟩

end Pattern

/-! ## Bytes -/

/-- A byte of a text: the first one of a character, or a further one. -/
inductive TextByte
  | first (c : Char)
  | further

namespace TextByte

/-- The bytes of a text. -/
def ofChars (cs : List Char) : List TextByte :=
  cs.flatMap fun c => first c :: List.replicate (c.utf8Size - 1) further

def is (byte : TextByte) (c : Char) : Bool :=
  match byte with
  | first d => c == d
  | further => false

/-- Whether a byte is part of a word. -/
def isInWord : TextByte → Bool
  | first c => c.isAlphanum || c == '_'
  | further => false

end TextByte

namespace Automaton

/-! ## Threads -/

/-- A thread: at a state, or at a number of bytes before it. -/
structure Thread where
  bytes : Nat
  state : Nat

/-- What has been reached before a byte: the threads in order, what is known of the place by what
stands before it, and two things on which it hangs what else is known. -/
structure Front where
  threads : List Thread
  known : List Place
  afterWord : Bool
  afterReturn : Bool

/-- What is reached without a byte: whether each state is entered, and the threads, the last one
first. -/
structure Reached where
  entered : Array Bool
  threads : List Thread

def state (automaton : Automaton) (n : Nat) : State := automaton.states.getD n .finish

/-- Nothing is reached. -/
def nowhere (automaton : Automaton) : Reached := ⟨Array.replicate automaton.states.size false, []⟩

/-- Enter states, the first one and all that it leads to before the others; `fuel` is at least the
number of states that are ever on the list. -/
def enter (automaton : Automaton) (known : List Place) :
    (fuel : Nat) → (todo : List Nat) → Reached → Reached
  | 0, _, reached => reached
  | _ + 1, [], reached => reached
  | fuel + 1, n :: todo, reached =>
    if reached.entered.getD n true then automaton.enter known fuel todo reached
    else
      let here := ⟨reached.entered.setIfInBounds n true, ⟨0, n⟩ :: reached.threads⟩
      match automaton.state n with
      | .fork preferred other =>
        automaton.enter known fuel (preferred :: other :: todo) here
      | .check place next =>
        if known.contains place then automaton.enter known fuel (next :: todo) here
        else automaton.enter known fuel todo here
      | _ => automaton.enter known fuel todo here

/-- Add what a thread reaches, when it has come to its state. -/
def add (automaton : Automaton) (known : List Place) (thread : Thread) (reached : Reached) :
    Reached :=
  if thread.bytes = 0 then
    automaton.enter known (2 * automaton.states.size + 1) [thread.state] reached
  else { reached with threads := thread :: reached.threads }

/-- The front before the first byte. -/
def begin (automaton : Automaton) : Front :=
  let known := [.textStart, .lineStart false, .lineStart true]
  let reached := automaton.add known ⟨0, automaton.start⟩ automaton.nowhere
  ⟨reached.threads.reverse, known, false, false⟩

/-! ## Runs -/

namespace Front

/-- What is known of a place by the byte after it. -/
def seen (front : Front) (next : Option TextByte) : List Place :=
  let returned := front.afterReturn && !next.any (·.is '\n')
  let inWord := next.any TextByte.isInWord
  (if next.isNone then [.textEnd] else []) ++
    (if next.all (·.is '\n') then [.lineEnd false] else []) ++
    (if next.all (fun byte => byte.is '\r' || (byte.is '\n' && !front.afterReturn)) then
      [.lineEnd true] else []) ++
    (if returned then [.lineStart true] else []) ++
    (if front.afterWord == inWord then [.noWordEdge] else [.wordEdge]) ++
    (if inWord && !front.afterWord then [.wordStart] else []) ++
    (if front.afterWord && !inWord then [.wordEnd] else [])

/-- Whether a thread is at a check that succeeds now and did not before. -/
def isFreed (automaton : Automaton) (known seen : List Place) (thread : Thread) : Bool :=
  thread.bytes = 0 &&
    match automaton.state thread.state with
    | .check place _ => seen.contains place && !known.contains place
    | _ => false

/-- The threads when it is known what comes next. All of them are entered anew if that frees one. -/
def ready (front : Front) (automaton : Automaton) (next : Option TextByte) : List Thread :=
  let seen := front.seen next
  if front.threads.any (isFreed automaton front.known seen) then
    (front.threads.foldl (fun reached thread => automaton.add (front.known ++ seen) thread reached)
      automaton.nowhere).threads.reverse
  else front.threads

/-- What threads reach with a byte, up to the first one that is at the end of the pattern. -/
def advance (automaton : Automaton) (known : List Place) (byte : TextByte) :
    List Thread → Reached → Reached
  | [], reached => reached
  | thread :: threads, reached =>
    let more (bytes next : Nat) :=
      advance automaton known byte threads (automaton.add known ⟨bytes, next⟩ reached)
    if 0 < thread.bytes then more (thread.bytes - 1) thread.state
    else
      match automaton.state thread.state, byte with
      | .take set next, .first c =>
        if set.contains c then more (c.utf8Size - 1) next
        else advance automaton known byte threads reached
      | .skipByte next, _ => more 0 next
      | .finish, _ => reached
      | _, _ => advance automaton known byte threads reached

/-- The front after a byte. -/
def step (front : Front) (automaton : Automaton) (byte : TextByte) : Front :=
  let known := if byte.is '\n' then [.lineStart false, .lineStart true] else []
  let reached := advance automaton known byte (front.ready automaton (some byte)) automaton.nowhere
  ⟨reached.threads.reverse, known, byte.isInWord, byte.is '\r'⟩

/-- Whether a thread is at the end of the pattern, at the end of the text. -/
def fits (front : Front) (automaton : Automaton) : Bool :=
  (front.ready automaton none).any fun thread =>
    thread.bytes = 0 && automaton.state thread.state matches .finish

end Front

end Automaton

/-- Whether a text fits a pattern: a match ends where the text does. -/
def Pattern.fits (pattern : Pattern) (text : String) : Bool :=
  let automaton := pattern.automaton
  let bytes := TextByte.ofChars text.toList
  (bytes.foldl (fun front byte => front.step automaton byte) automaton.begin).fits automaton

namespace Pattern

/-- What is preferred is taken even if a text then does not fit. -/
example : (choice (one (.single 'a')) (sequence (one (.single 'a')) (one (.single 'b')))).fits "ab" =
    false := by decide +kernel

/-- What stands before a match does not matter. -/
example : (plus (one (.single 'b')) true).fits "abb" ∧ ¬(plus (one (.single 'b')) false).fits "abb" := by
  decide +kernel

end Pattern

end ScreenFlow.Text
