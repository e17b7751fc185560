import ScreenFlow.Screen.Component
import ScreenFlow.Text.Blank

/-!
# Validation of fields

The checks on the value of a text field, in a fixed order: required, least length, and the format that
the data type asks for. The first one that fails is the one reported. Lengths count characters, and an
optional field may always be empty.
-/

namespace ScreenFlow

/-- What a value misses. -/
inductive Violation
  | required
  | tooShort (minimum : UInt64)
  | noAddress
  | shortPassword
  deriving DecidableEq

namespace Violation

/-- The least length of a password. -/
def passwordLength : Nat := 8

/-- The message shown beside the field. -/
def message : Violation → String
  | required => "Este campo es requerido"
  | tooShort minimum => "Debe tener al menos " ++ toString minimum.toNat ++ " caracteres"
  | noAddress => "Correo electrónico inválido"
  | shortPassword =>
    "La contraseña debe tener al menos " ++ toString passwordLength ++ " caracteres"

end Violation

namespace Text

/-- Whether a word without blanks is an address from its start on: something, an at sign, something, a
point, something. -/
def startsAddress (word : List Char) : Bool :=
  match (word.drop 1).dropWhile (· ≠ '@') with
  | [] => false
  | _ :: host => (host.drop 1).dropLast.contains '.'

/-- Whether an address stands anywhere in a text. -/
def hasAddress : List Char → Bool
  | [] => false
  | c :: cs => startsAddress ((c :: cs).takeWhile (!isBlank ·)) || hasAddress cs

end Text

/-- The first check of a text field that a value fails. -/
def TextField.violation? (field : TextField) (value : String) : Option Violation :=
  if field.required ∧ Text.allBlank value then some .required
  else if value = "" then none
  else
    match field.validations.minLength with
    | some minimum =>
      if value.length < minimum.toNat then some (.tooShort minimum) else ofType value
    | none => ofType value
where
  /-- The check of the data type, on a value that is not empty. -/
  ofType (value : String) : Option Violation :=
    match field.dataType with
    | .email => if Text.hasAddress value.toList then none else some .noAddress
    | .password => if value.length < Violation.passwordLength then some .shortPassword else none
    | .text | .other _ _ => none

/-- The message of the first check that a value fails. -/
def TextField.error? (field : TextField) (value : String) : Option String :=
  (field.violation? value).map Violation.message

end ScreenFlow
