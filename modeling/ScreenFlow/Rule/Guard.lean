import ScreenFlow.Diagnostic
import ScreenFlow.Rule.Condition
import ScreenFlow.Text.Blank

/-!
# Guards

Conditions judged by the values of a session. A comparator that is not known holds, so that documents
made for later versions go on working; the guard is reported.
-/

namespace ScreenFlow

namespace Condition

/-- The value that a condition judges. -/
def subject (condition : Condition) (values : Bindings String) : String :=
  (values.get? condition.field).getD ""

/-- Whether a condition holds. -/
def holds (condition : Condition) (values : Bindings String) : Bool :=
  match condition.comparator with
  | .isNotEmpty => !Text.allBlank (condition.subject values)
  | .isEmpty => Text.allBlank (condition.subject values)
  | .other _ _ => true

/-- What is reported of judging a condition. -/
def report (condition : Condition) : List Diagnostic :=
  match condition.comparator with
  | .isNotEmpty | .isEmpty => []
  | .other name _ => [.unknownComparator name condition.field]

end Condition

/-- Whether all guards hold. -/
def guardsHold (guards : List Condition) (values : Bindings String) : Bool :=
  guards.all (·.holds values)

/-- What is reported of judging guards, up to the first one that fails. -/
def guardReport (values : Bindings String) : List Condition → List Diagnostic
  | [] => []
  | guard :: guards =>
    guard.report ++ if guard.holds values then guardReport values guards else []

end ScreenFlow
