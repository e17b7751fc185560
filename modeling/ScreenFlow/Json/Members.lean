import ScreenFlow.Json

/-!
# Writing members

The members of an object that is written: one that is always there, and one that is left out when
there is nothing to write.
-/

namespace ScreenFlow.Json

/-- A member that is always written. -/
def always (name : String) (value : Json) : List (String × Json) := [(name, value)]

/-- A member that is left out when it is absent. -/
def whenSome {α : Type} (name : String) (write : α → Json) : Option α → List (String × Json)
  | none => []
  | some value => [(name, write value)]

/-- A value, or `null` for none. -/
def orNull {α : Type} (write : α → Json) : Option α → Json
  | none => null
  | some value => write value

/-- A list of values. -/
def list {α : Type} (write : α → Json) (values : List α) : Json := arr (values.map write)

/-- A map. -/
def map {α : Type} (write : α → Json) (values : Bindings α) : Json :=
  obj (values.entries.map fun entry => (entry.1, write entry.2))

/-- An integer. -/
def nat (value : Nat) : Json := num (.int value)

end ScreenFlow.Json
