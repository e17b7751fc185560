import ScreenFlow.Json.Members
import ScreenFlow.Reader.Fields

/-!
# States

What a session remembers: the active screen, and a value and an error message for each binding key.
-/

namespace ScreenFlow

/-- The state of a session. -/
structure State where
  activeScreen : String
  values : Bindings String
  errors : Bindings String
  deriving DecidableEq

namespace State

/-- The state on a screen where nothing has happened yet. -/
def initial (screen : String) : State := ⟨screen, .empty, .empty⟩

/-- The value of a key; a key without one reads as empty. -/
def value (state : State) (key : String) : String := (state.values.get? key).getD ""

/-- Keep a value. -/
def setValue (state : State) (key value : String) : State :=
  { state with values := state.values.insert key value }

/-- Keep an error, or clear the one there is. -/
def setError (state : State) (key : String) : Option String → State
  | some message => { state with errors := state.errors.insert key message }
  | none => { state with errors := state.errors.erase key }

/-- Make a screen the active one; values stay, errors go. -/
def moveTo (state : State) (screen : String) : State :=
  { state with activeScreen := screen, errors := .empty }

@[simp] theorem activeScreen_setError (state : State) (key : String) (error : Option String) :
    (state.setError key error).activeScreen = state.activeScreen := by
  cases error <;> rfl

@[simp] theorem values_setError (state : State) (key : String) (error : Option String) :
    (state.setError key error).values = state.values := by
  cases error <;> rfl

theorem get?_errors_setError (state : State) (key other : String) (error : Option String) :
    (state.setError key error).errors.get? other =
      if other = key then error else state.errors.get? other := by
  cases error with
  | none => simp [setError, Bindings.get?_erase]
  | some message => simp [setError, Bindings.get?_insert]

def fields : Fields State :=
  Fields.make State.mk
    |>.required "active_screen" .text
    |>.required "values" (.bindings .text)
    |>.required "errors" (.bindings .text)

def reader : Reader State := fields.reader "struct RuntimeState"

def write (state : State) : Json :=
  .obj (Json.always "active_screen" (.str state.activeScreen) ++
    Json.always "values" (.map .str state.values) ++ Json.always "errors" (.map .str state.errors))

end State

end ScreenFlow
