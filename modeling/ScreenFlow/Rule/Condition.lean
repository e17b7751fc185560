import ScreenFlow.Json.Members
import ScreenFlow.Reader.Fields
import ScreenFlow.Reader.Name

/-!
# Conditions

The guards of a rule. A comparator that is not known keeps its name.
-/

namespace ScreenFlow

/-- How a condition judges a value. -/
inductive Comparator
  | isNotEmpty
  | isEmpty
  | other (name : String) (unknown : name ∉ ["is_not_empty", "is_empty"])
  deriving DecidableEq

namespace Comparator

def name : Comparator → String
  | isNotEmpty => "is_not_empty"
  | isEmpty => "is_empty"
  | other name _ => name

def ofName (name : String) : Comparator :=
  if h : name ∈ ["is_not_empty", "is_empty"] then
    if name = "is_not_empty" then isNotEmpty else isEmpty
  else other name h

@[simp] theorem ofName_name : ∀ comparator : Comparator, ofName comparator.name = comparator
  | isNotEmpty | isEmpty => by decide
  | other name h => by
    show ofName name = _
    rw [ofName, dif_neg h]

def reader : Reader Comparator := .openName "Comparator" ["is_not_empty", "is_empty"] ofName

def write (comparator : Comparator) : Json := .str comparator.name

end Comparator

/-- A guard over the value bound to `field`. The operand is free-form, `null` when there is none. -/
structure Condition where
  field : String
  comparator : Comparator
  operand : FreeForm
  deriving DecidableEq

namespace Condition

def fields : Fields Condition :=
  Fields.make Condition.mk
    |>.required "field" .text
    |>.required "comparator" Comparator.reader
    |>.defaulted "value" .freeForm .null

def reader : Reader Condition := fields.reader "struct Condition"

def write (condition : Condition) : Json :=
  .obj (Json.always "field" (.str condition.field) ++
    Json.always "comparator" condition.comparator.write ++
    if condition.operand = .null then [] else Json.always "value" condition.operand.json)

end Condition

end ScreenFlow
