import ScreenFlow.Diagnostic
import ScreenFlow.Document
import ScreenFlow.State

/-!
# Specifications

A locked specification: what sessions run on. One made by `Specification.make` has an index of its
screens, which points to the last screen of an id; one that is read has none, and is searched from the
front. The index is no part of what a specification says (`Specification.Same`).
-/

namespace ScreenFlow

/-- A screen is asked for that is not there. -/
structure ScreenNotFound where
  id : String
  deriving DecidableEq

def ScreenNotFound.message (missing : ScreenNotFound) : String := "screen not found: " ++ missing.id

/-- A locked specification. -/
structure Specification where
  info : Option Document.Meta
  initialScreen : String
  screens : List Screen
  rules : List Rule
  transitions : List Transition
  /-- The places of the screens; empty in a specification that was read. -/
  index : Bindings Nat

namespace Specification

/-- A specification with an index of its screens. -/
def make (info : Option Document.Meta) (initialScreen : String) (screens : List Screen)
    (rules : List Rule) (transitions : List Transition) : Specification :=
  ⟨info, initialScreen, screens, rules, transitions,
    .ofList ((screens.map Screen.id).zip (List.range screens.length))⟩

/-- A specification without an index. -/
def unindexed (info : Option Document.Meta) (initialScreen : String) (screens : List Screen)
    (rules : List Rule) (transitions : List Transition) : Specification :=
  ⟨info, initialScreen, screens, rules, transitions, .empty⟩

/-- The same specification with an index of its screens. -/
def reindex (spec : Specification) : Specification :=
  make spec.info spec.initialScreen spec.screens spec.rules spec.transitions

/-- Two specifications say the same. -/
def Same (x y : Specification) : Prop :=
  x.info = y.info ∧ x.initialScreen = y.initialScreen ∧ x.screens = y.screens ∧
    x.rules = y.rules ∧ x.transitions = y.transitions

instance : DecidableRel Same := fun x y => by unfold Same; infer_instance

/-! ## Look-up -/

/-- The screen of an id: where the index points, else the first one. -/
def screen? (spec : Specification) (id : String) : Option Screen :=
  ((spec.index.get? id).bind (spec.screens[·]?)) <|> spec.screens.find? (·.id = id)

/-- The screen of an id, which must be there. -/
def screen (spec : Specification) (id : String) : Except ScreenNotFound Screen :=
  match spec.screen? id with
  | some screen => .ok screen
  | none => .error ⟨id⟩

/-- The rules that react to an event on a screen, in declaration order. -/
def rulesFor (spec : Specification) (screenId event : String) : List Rule :=
  spec.rules.filter (·.reactsTo screenId event)

/-- The first transition for an event that leaves a screen. -/
def transition? (spec : Specification) (event source : String) : Option Transition :=
  spec.transitions.find? fun transition => transition.event = event ∧ transition.source = source

/-- Where an event leads from a screen. -/
def target? (spec : Specification) (event source : String) : Option String :=
  (spec.transition? event source).map Transition.target

/-! ## Navigation -/

/-- Follow an event from a screen: whether it leads anywhere, and the state after it. -/
def navigate (spec : Specification) (state : State) (event source : String) : Bool × State :=
  match spec.target? event source with
  | some target => (true, state.moveTo target)
  | none => (false, state)

/-- What is reported of following an event. -/
def navigationReport (spec : Specification) (event source : String) : Diagnostic :=
  match spec.target? event source with
  | some target => .navigating event source target
  | none => .noTransition event source

/-! ## Reading and writing -/

def fields : Fields Specification :=
  Fields.make unindexed
    |>.nullable "meta" Document.Meta.reader
    |>.required "initial_screen" .text
    |>.required "screens" (.list Screen.reader)
    |>.required "rules" (.list Rule.reader)
    |>.required "transitions" (.list Transition.reader)

def reader : Reader Specification := fields.reader "struct Specification"

def write (spec : Specification) : Json :=
  .obj (Json.always "meta" (.orNull Document.Meta.write spec.info) ++
    Json.always "initial_screen" (.str spec.initialScreen) ++
    Json.always "screens" (.list Screen.write spec.screens) ++
    Json.always "rules" (.list Rule.write spec.rules) ++
    Json.always "transitions" (.list Transition.write spec.transitions))

end Specification

end ScreenFlow
