import ScreenFlow.Rule.Step

/-!
# Requests for operations
-/

namespace ScreenFlow

/-- An operation that a rule asks its host for. -/
structure Operation where
  screenId : String
  ruleId : String
  operation : String
  params : Bindings FreeForm
  successEvent : Option String
  errorEvent : Option String
  deriving DecidableEq

namespace Operation

/-- The request that a rule makes on a screen. -/
def ofCall (screenId ruleId : String) (call : OperationCall) : Operation :=
  ⟨screenId, ruleId, call.operation, call.params, call.successEvent, call.errorEvent⟩

def fields : Fields Operation :=
  Fields.make Operation.mk
    |>.required "screen_id" .text
    |>.required "rule_id" .text
    |>.required "operation" .text
    |>.required "params" (.bindings .freeForm)
    |>.nullable "success_event" .text
    |>.nullable "error_event" .text

def reader : Reader Operation := fields.reader "struct OperationRequest"

def write (operation : Operation) : Json :=
  .obj (Json.always "screen_id" (.str operation.screenId) ++
    Json.always "rule_id" (.str operation.ruleId) ++
    Json.always "operation" (.str operation.operation) ++
    Json.always "params" (.map FreeForm.json operation.params) ++
    Json.always "success_event" (.orNull .str operation.successEvent) ++
    Json.always "error_event" (.orNull .str operation.errorEvent))

end Operation

end ScreenFlow
