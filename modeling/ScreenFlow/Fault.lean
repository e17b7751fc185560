import ScreenFlow.Text.Quoted

/-!
# Faults of a document

Why a text or a value is not read: it is no JSON, it ends too early, or it has another shape than the
one asked for.
-/

namespace ScreenFlow

/-- The two shapes that hold other values. -/
inductive Shape
  | sequence
  | map
  deriving DecidableEq

/-- What stands where something else was expected. -/
inductive Found
  | null
  | bool (value : Bool)
  | num (value : Number)
  | str (text : String)
  | container (shape : Shape)
  deriving DecidableEq

/-- How a value misses the shape asked for. -/
inductive Mismatch
  | missingField (name : String)
  | duplicateField (name : String)
  | unknownVariant (name : String) (known : List String)
  | invalidType (found : Found) (expected : String)
  | invalidValue (found : Found) (expected : String)
  | invalidLength (length : Nat) (expected : String)
  | noVariant (type : String)
  deriving DecidableEq

/-- Why a document is not read. -/
inductive Fault
  /-- The text is no JSON, or it is nested too deeply. -/
  | malformed
  /-- The text ends too early. -/
  | truncated
  | mismatch (mismatch : Mismatch)
  deriving DecidableEq

/-- How a message names what it found. -/
def Found.text : Found → String
  | .null => "null"
  | .bool true => "boolean `true`"
  | .bool false => "boolean `false`"
  | .num (.int value) => "integer `" ++ toString value ++ "`"
  | .num (.float value) => "floating point `" ++ value.text ++ "`"
  | .str text => "string " ++ Text.shown text
  | .container .sequence => "sequence"
  | .container .map => "map"

/-- A name between backticks. -/
def ticked (name : String) : String := "`" ++ name ++ "`"

/-- The known names of a choice, as a message offers them. -/
def offered : List String → String
  | [] => "there are no variants"
  | [one] => "expected " ++ ticked one
  | [one, other] => "expected " ++ ticked one ++ " or " ++ ticked other
  | names => "expected one of " ++ ", ".intercalate (names.map ticked)

/-- The message of a mismatch. -/
def Mismatch.message : Mismatch → String
  | .missingField name => "missing field " ++ ticked name
  | .duplicateField name => "duplicate field " ++ ticked name
  | .unknownVariant name known => "unknown variant " ++ ticked name ++ ", " ++ offered known
  | .invalidType found expected => "invalid type: " ++ found.text ++ ", expected " ++ expected
  | .invalidValue found expected => "invalid value: " ++ found.text ++ ", expected " ++ expected
  | .invalidLength length expected =>
    "invalid length " ++ toString length ++ ", expected " ++ expected
  | .noVariant type => "data did not match any variant of untagged enum " ++ type

end ScreenFlow
