import ScreenFlow.Rule
import ScreenFlow.Screen
import ScreenFlow.Transition

/-!
# Documents

A specification as authored: screens, rules and transitions that may still refer to what is not there.
-/

namespace ScreenFlow

/-- What a document says of itself. -/
structure Document.Meta where
  dslVersion : String
  bundleVersion : Option String
  minEngineVersion : Option String
  appName : Option String
  environment : Option String
  deriving DecidableEq

/-- The screens that access is bound to. -/
structure Document.Access where
  loginScreen : Option String
  unauthorizedScreen : Option String
  deriving DecidableEq

/-- Rules of operation. -/
structure Document.Operational where
  access : Option Document.Access
  deriving DecidableEq

/-- A specification as authored. -/
structure Document where
  info : Option Document.Meta
  screens : List Screen
  rules : List AuthoredRule
  transitions : List Transition
  operational : Option Document.Operational
  deriving DecidableEq

namespace Document

namespace Meta

def fields : Fields Meta :=
  Fields.make Meta.mk
    |>.required "dsl_version" .text
    |>.optional "bundle_version" .text
    |>.optional "min_engine_version" .text
    |>.optional "app_name" .text
    |>.optional "environment" .text

def reader : Reader Meta := fields.reader "struct DocumentMeta"

def write (info : Meta) : Json :=
  .obj (Json.always "dsl_version" (.str info.dslVersion) ++
    Json.whenSome "bundle_version" .str info.bundleVersion ++
    Json.whenSome "min_engine_version" .str info.minEngineVersion ++
    Json.whenSome "app_name" .str info.appName ++ Json.whenSome "environment" .str info.environment)

end Meta

namespace Access

def fields : Fields Access :=
  Fields.make Access.mk |>.optional "login_screen" .text |>.optional "unauthorized_screen" .text

def reader : Reader Access := fields.reader "struct AccessRules"

def write (access : Access) : Json :=
  .obj (Json.whenSome "login_screen" .str access.loginScreen ++
    Json.whenSome "unauthorized_screen" .str access.unauthorizedScreen)

end Access

namespace Operational

def fields : Fields Operational := Fields.make Operational.mk |>.optional "access" Access.reader

def reader : Reader Operational := fields.reader "struct OperationalRules"

def write (operational : Operational) : Json :=
  .obj (Json.whenSome "access" Access.write operational.access)

end Operational

def fields : Fields Document :=
  Fields.make Document.mk
    |>.optional "meta" Meta.reader
    |>.required "screens" (.list Screen.reader)
    |>.defaulted "rules" (.list AuthoredRule.reader) []
    |>.defaulted "transitions" (.list Transition.reader) []
    |>.optional "operational_rules" Operational.reader

def reader : Reader Document := fields.reader "struct SpecificationDocument"

def write (document : Document) : Json :=
  .obj (Json.whenSome "meta" Meta.write document.info ++
    Json.always "screens" (.list Screen.write document.screens) ++
    Json.always "rules" (.list AuthoredRule.write document.rules) ++
    Json.always "transitions" (.list Transition.write document.transitions) ++
    Json.whenSome "operational_rules" Operational.write document.operational)

/-- The screen to start on: the login screen if one is named, else the first. -/
def initialScreen? (document : Document) : Option String :=
  (document.operational.bind fun operational => operational.access.bind (·.loginScreen)) <|>
    document.screens.head?.map (·.id)

end Document

end ScreenFlow
