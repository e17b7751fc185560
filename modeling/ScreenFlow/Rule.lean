import ScreenFlow.Rule.Condition
import ScreenFlow.Rule.Step

/-!
# Rules

A rule reacts to an event: if all its guards hold, it runs its steps. A rule as authored may leave its
scope out; a locked one is global or bound to one screen.
-/

namespace ScreenFlow

/-! ## Authored rules -/

/-- The scope that an author gives a rule. -/
inductive ScopeKind
  | global
  | screen
  deriving DecidableEq

namespace ScopeKind

/-- The name of each kind. -/
def names : List (String × ScopeKind) := [("global", global), ("screen", screen)]

def reader : Reader ScopeKind := .closedName names

def write : ScopeKind → Json
  | global => .str "global"
  | screen => .str "screen"

end ScopeKind

/-- A rule as authored. -/
structure AuthoredRule where
  id : String
  scope : Option ScopeKind
  screenId : Option String
  onEvent : String
  guards : List Condition
  steps : List Step
  deriving DecidableEq

namespace AuthoredRule

def fields : Fields AuthoredRule :=
  Fields.make AuthoredRule.mk
    |>.required "id" .text
    |>.optional "scope" ScopeKind.reader
    |>.optional "screen_id" .text
    |>.required "on_event" .text
    |>.defaulted "when" (.list Condition.reader) []
    |>.defaulted "steps" (.list Step.reader) []

def reader : Reader AuthoredRule := fields.reader "struct RuleDef"

def write (rule : AuthoredRule) : Json :=
  .obj (Json.always "id" (.str rule.id) ++ Json.whenSome "scope" ScopeKind.write rule.scope ++
    Json.whenSome "screen_id" .str rule.screenId ++ Json.always "on_event" (.str rule.onEvent) ++
    Json.always "when" (.list Condition.write rule.guards) ++
    Json.always "steps" (.list Step.write rule.steps))

end AuthoredRule

/-! ## Scopes -/

/-- Where a locked rule applies. -/
inductive Scope
  | global
  | screen (id : String)
  deriving DecidableEq

namespace Scope

/-- What a message calls a scope. -/
def expected : String := "adjacently tagged enum RuleScope"

/-- The contents of a scope of a kind. -/
def ofContent (kind : ScopeKind) : Reader Scope :=
  match kind with
  | .global => fun
    | _, .null => .ok .global
    | _, .sealed _ _ => .error .malformed
    | _, draft => draft.refuse "unit variant RuleScope::Global"
  | .screen => fun origin draft => (Reader.text origin draft).map .screen

/-- The scope of a kind without contents. -/
def withoutContent : ScopeKind → Except Fault Scope
  | .global => .ok .global
  | .screen => .error (.mismatch (.missingField "screen_id"))

/-- A scope from its two members. Contents before the kind are set aside, and judged where the kind
stands. -/
def ofMembers (origin : Origin) (members : List (String × Draft)) (ending : Ending) :
    Except Fault Scope :=
  let content := firstMember? "screen_id" members
  let kindAt := (firstMember? "scope" members).map Prod.fst
  let early := content.any fun found => kindAt.any (found.1 < ·) || kindAt.isNone
  let setAside : Met (Scope → Scope) :=
    match content with
    | some (position, draft) =>
      if early then (Fault.raise draft.keepFault).mapError (position, ·) |>.map fun _ => id
      else .ok id
    | none => .ok id
  let strays : Met (Scope → Scope) :=
    match Fields.strayFault ["scope", "screen_id"] Draft.skipFault ending [] 0 members with
    | some met => .error met
    | none => .ok id
  let scope : Met Scope :=
    match (Fields.single "scope" ScopeKind.reader).ofMembers origin members with
    | .error met => .error met
    | .ok kind =>
      match content with
      | none => (withoutContent kind).mapError (members.length + 1, ·)
      | some (position, draft) =>
        if early then
          (ofContent kind .buffer draft).mapError (kindAt.getD members.length, ·)
        else (ofContent kind origin draft).mapError (position, ·)
  (strays.combine (setAside.combine scope)).mapError Prod.snd

/-- A scope from a list: the name of its kind, then its contents. -/
def ofItems (origin : Origin) (items : List Draft) (ending : Ending) : Except Fault Scope := do
  match items with
  | [] =>
    Fault.raise ending.keepFault
    throw (.mismatch (.invalidLength 0 expected))
  | [kind] =>
    let _ ← Reader.bareName ScopeKind.names origin kind
    Fault.raise ending.keepFault
    throw (.mismatch (.invalidLength 1 expected))
  | kind :: content :: rest =>
    let scope ← ofContent (← Reader.bareName ScopeKind.names origin kind) origin content
    match rest, origin with
    | [], _ =>
      Fault.raise ending.keepFault
      return scope
    | _ :: _, .text => throw .malformed
    | _ :: _, _ => throw (.mismatch (.invalidLength items.length "fewer elements in array"))

def reader : Reader Scope
  | origin, .obj members ending => ofMembers origin members ending
  | origin, .arr items ending => ofItems origin items ending
  | _, .sealed _ _ => .error .malformed
  | _, draft => draft.refuse expected

def write : Scope → Json
  | global => .obj (Json.always "scope" (.str "global"))
  | screen id => .obj (Json.always "scope" (.str "screen") ++ Json.always "screen_id" (.str id))

end Scope

/-! ## Locked rules -/

/-- A locked rule. -/
structure Rule where
  id : String
  scope : Scope
  onEvent : String
  guards : List Condition
  steps : List Step
  deriving DecidableEq

namespace Rule

def fields : Fields Rule :=
  Fields.make Rule.mk
    |>.required "id" .text
    |>.required "scope" Scope.reader
    |>.required "on_event" .text
    |>.required "when" (.list Condition.reader)
    |>.required "steps" (.list Step.reader)

def reader : Reader Rule := fields.reader "struct Rule"

def write (rule : Rule) : Json :=
  .obj (Json.always "id" (.str rule.id) ++ Json.always "scope" rule.scope.write ++
    Json.always "on_event" (.str rule.onEvent) ++
    Json.always "when" (.list Condition.write rule.guards) ++
    Json.always "steps" (.list Step.write rule.steps))

/-- Whether the rule reacts to an event on a screen. -/
def reactsTo (rule : Rule) (screenId event : String) : Bool :=
  (match rule.scope with
    | .global => true
    | .screen id => id == screenId) && rule.onEvent == event

end Rule

end ScreenFlow
