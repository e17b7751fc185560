import ScreenFlow.Specification

/-!
# Resolution

A document becomes a specification if its ids are distinct and all that it refers to is there. The
checks run in a fixed order, and the first one that fails is the one reported: for each screen its id
and then the ids of its components, the initial screen, the transitions, the rules.
-/

namespace ScreenFlow

/-- Why a document is no specification. -/
inductive ResolutionError
  | duplicateScreen (screen : String)
  | duplicateComponent (screen component : String)
  | invalidTransition (transition screen : String)
  | invalidRuleScreen (rule screen : String)
  | missingRuleScreen (rule : String)
  | noInitialScreen
  | initialScreenNotFound (screen : String)
  deriving DecidableEq

def ResolutionError.message : ResolutionError → String
  | duplicateScreen screen => "duplicate screen id: " ++ screen
  | duplicateComponent screen component =>
    "duplicate component id '" ++ component ++ "' on screen '" ++ screen ++ "'"
  | invalidTransition transition screen =>
    "invalid transition '" ++ transition ++ "': screen '" ++ screen ++ "' does not exist"
  | invalidRuleScreen rule screen =>
    "invalid rule '" ++ rule ++ "': screen '" ++ screen ++ "' does not exist"
  | missingRuleScreen rule => "rule '" ++ rule ++ "' is screen-scoped but names no screen"
  | noInitialScreen => "specification has no initial screen"
  | initialScreenNotFound screen => "initial screen not found: " ++ screen

/-- The first entry of a list that stands in it a second time. -/
def firstRepeated? (seen : List String) : List String → Option String
  | [] => none
  | id :: ids => if id ∈ seen then some id else firstRepeated? (id :: seen) ids

namespace Document

/-- Screen ids are distinct, and component ids on each screen are. -/
def checkIds (seen : List String) : List Screen → Except ResolutionError Unit
  | [] => .ok ()
  | screen :: screens =>
    if screen.id ∈ seen then .error (.duplicateScreen screen.id)
    else
      match firstRepeated? [] (screen.components.map Component.id) with
      | some component => .error (.duplicateComponent screen.id component)
      | none => checkIds (screen.id :: seen) screens

/-- Both ends of every transition are there. -/
def checkTransitions (screens : List String) : List Transition → Except ResolutionError Unit
  | [] => .ok ()
  | transition :: transitions =>
    if transition.source ∉ screens then
      .error (.invalidTransition transition.id transition.source)
    else if transition.target ∉ screens then
      .error (.invalidTransition transition.id transition.target)
    else checkTransitions screens transitions

/-- The scope of a rule: only a rule that is bound to a screen needs one. -/
def lockScope (screens : List String) (rule : AuthoredRule) : Except ResolutionError Scope :=
  match rule.scope with
  | none | some .global => .ok .global
  | some .screen =>
    match rule.screenId with
    | none => .error (.missingRuleScreen rule.id)
    | some screen =>
      if screen ∈ screens then .ok (.screen screen) else .error (.invalidRuleScreen rule.id screen)

/-- A rule with its scope locked. -/
def lockRule (screens : List String) (rule : AuthoredRule) : Except ResolutionError Rule := do
  return ⟨rule.id, ← lockScope screens rule, rule.onEvent, rule.guards, rule.steps⟩

/-- The screen to start on, which must be there; `initial` overrides the document. -/
def lockInitial (document : Document) (initial : Option String) : Except ResolutionError String :=
  match initial <|> document.initialScreen? with
  | none => .error .noInitialScreen
  | some screen =>
    if screen ∈ document.screens.map Screen.id then .ok screen
    else .error (.initialScreenNotFound screen)

/-- All that is checked before the rules; the screen to start on. -/
def checkStructure (document : Document) (initial : Option String) :
    Except ResolutionError String := do
  checkIds [] document.screens
  let initialScreen ← document.lockInitial initial
  checkTransitions (document.screens.map Screen.id) document.transitions
  return initialScreen

/-- The specification of a document; `initial` overrides its initial screen. -/
def resolve (document : Document) (initial : Option String) :
    Except ResolutionError Specification := do
  let initialScreen ← document.checkStructure initial
  let rules ← document.rules.mapM (lockRule (document.screens.map Screen.id))
  return .make document.info initialScreen document.screens rules document.transitions

/-! ## Reports -/

/-- What is reported of a rule whose screen does not count. -/
def ignoredScreen? (rule : AuthoredRule) : Option Diagnostic :=
  match rule.scope, rule.screenId with
  | some .screen, _ | _, none => none
  | _, some screen => some (.screenIgnored rule.id screen)

/-- What is reported of the rules, up to the first one that is refused. -/
def lockReport (screens : List String) : List AuthoredRule → List Diagnostic
  | [] => []
  | rule :: rules =>
    match lockScope screens rule with
    | .ok _ => (ignoredScreen? rule).toList ++ lockReport screens rules
    | .error _ => []

/-- What is reported of resolving a document. -/
def resolutionReport (document : Document) (initial : Option String) : List Diagnostic :=
  match document.checkStructure initial with
  | .error _ => []
  | .ok initialScreen =>
    lockReport (document.screens.map Screen.id) document.rules ++
      match document.resolve initial with
      | .ok _ =>
        [.resolved document.screens.length document.rules.length document.transitions.length
          initialScreen]
      | .error _ => []

end Document

end ScreenFlow
