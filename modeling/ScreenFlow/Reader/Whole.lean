import ScreenFlow.Draft.Text
import ScreenFlow.Reader

/-!
# Reading whole texts and values
-/

namespace ScreenFlow.Reader

variable {α : Type}

/-- Read a JSON text; nothing but blanks may follow. -/
def ofText (read : Reader α) (text : String) : Except Fault α := do
  let (draft, trailing) := Draft.ofText text
  let value ← read .text draft
  Fault.raise trailing
  return value

/-- Read a value that was read before. -/
def ofValue (read : Reader α) (value : FreeForm) : Except Fault α :=
  read .value (Draft.ofJson value.json)

end ScreenFlow.Reader
