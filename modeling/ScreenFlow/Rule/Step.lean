import ScreenFlow.Json.Members
import ScreenFlow.Reader.Union

/-!
# Steps

What a rule does. A step of a type that is not known is kept as `Step.unsupported`.
-/

namespace ScreenFlow

/-- Check the fields bound to the listed keys. -/
structure FieldCheck where
  fields : List String
  showErrors : Option Bool
  stopOnError : Bool
  deriving DecidableEq

/-- Ask for an operation, and follow its success event. -/
structure OperationCall where
  operation : String
  params : Bindings FreeForm
  successEvent : Option String
  errorEvent : Option String
  deriving DecidableEq

/-- One step of a rule. -/
inductive Step
  | validate (check : FieldCheck)
  | start (call : OperationCall)
  /-- A type that is not known. -/
  | unsupported
  deriving DecidableEq

namespace FieldCheck

def description : Fields FieldCheck :=
  Fields.make FieldCheck.mk
    |>.required "fields" (.list .text)
    |>.optional "show_errors" .flag
    |>.defaulted "stop_on_error" .flag false

def members (check : FieldCheck) : List (String × Json) :=
  Json.always "fields" (.list .str check.fields) ++
    Json.always "show_errors" (.orNull .bool check.showErrors) ++
    Json.always "stop_on_error" (.bool check.stopOnError)

end FieldCheck

namespace OperationCall

def description : Fields OperationCall :=
  Fields.make OperationCall.mk
    |>.required "operation" .text
    |>.defaulted "params" (.bindings .freeForm) .empty
    |>.optional "success_event" .text
    |>.optional "error_event" .text

def members (call : OperationCall) : List (String × Json) :=
  Json.always "operation" (.str call.operation) ++
    Json.always "params" (.map FreeForm.json call.params) ++
    Json.whenSome "success_event" .str call.successEvent ++
    Json.whenSome "error_event" .str call.errorEvent

end OperationCall

namespace Step

/-- The types of step, by their tags. -/
def union : Union Step where
  name := "Step"
  tag := "type"
  variants :=
    [("validate_fields", .record "struct ValidateFieldsStep" (FieldCheck.description.map validate)),
      ("start_operation", .record "struct StartOperationStep" (OperationCall.description.map start))]
  fallback := some unsupported

def reader : Reader Step := union.reader

/-- The tag that a step is written with. -/
def tag : Step → String
  | validate _ => "validate_fields"
  | start _ => "start_operation"
  | unsupported => "unsupported"

/-- The members besides the tag. -/
def members : Step → List (String × Json)
  | validate check => check.members
  | start call => call.members
  | unsupported => []

def write (step : Step) : Json := .obj (Json.always "type" (.str step.tag) ++ step.members)

end Step

end ScreenFlow
