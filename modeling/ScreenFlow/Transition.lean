import ScreenFlow.Json.Members
import ScreenFlow.Reader.Fields

/-!
# Transitions
-/

namespace ScreenFlow

/-- A way from one screen to another, taken on an event. -/
structure Transition where
  id : String
  event : String
  source : String
  target : String
  clearStack : Bool
  deriving DecidableEq

namespace Transition

def fields : Fields Transition :=
  Fields.make Transition.mk
    |>.required "id" .text
    |>.required "event" .text
    |>.required "from" .text
    |>.required "to" .text
    |>.defaulted "clear_stack" .flag false

def reader : Reader Transition := fields.reader "struct Transition"

def write (transition : Transition) : Json :=
  .obj (Json.always "id" (.str transition.id) ++ Json.always "event" (.str transition.event) ++
    Json.always "from" (.str transition.source) ++ Json.always "to" (.str transition.target) ++
    Json.always "clear_stack" (.bool transition.clearStack))

end Transition

end ScreenFlow
