import ScreenFlow.Reader

/-!
# Fields of a record

`Fields α` describes a record by its fields in order. The record is read from an object, by name, or
from a list, by position. From an object the fault that stands first wins: a member that is not read,
a second member of a name, a bad ending; fields that are missing come after all of them.
-/

namespace ScreenFlow

/-- What a field is when it is left out. -/
inductive Absence (β : Type)
  /-- It may not be left out. -/
  | refused
  /-- It may be left out of an object and, with all after it, of a list. -/
  | anywhere (value : β)
  /-- It may be left out of an object only. -/
  | ofObjects (value : β)

/-- The fields of a record, and how the record is made of them. -/
inductive Fields : Type → Type 1
  | make {α : Type} (value : α) : Fields α
  | field {α β : Type} (before : Fields (β → α)) (name : String) (read : Reader β)
      (absence : Absence β) : Fields α

/-- What the members of an object come to: a value, or the fault at the lowest position. -/
abbrev Met (α : Type) := Except (Nat × Fault) α

/-- Both of two parts; of two faults the one that stands first. -/
def Met.combine {α β : Type} : Met (β → α) → Met β → Met α
  | .ok f, .ok value => .ok (f value)
  | .error met, .ok _ => .error met
  | .ok _, .error met => .error met
  | .error met, .error other => .error (if other.1 < met.1 then other else met)

/-- The first member of a name, with its position. -/
def firstMember? (name : String) : List (String × Draft) → Option (Nat × Draft)
  | [] => none
  | (other, draft) :: members =>
    if other = name then some (0, draft)
    else (firstMember? name members).map fun found => (found.1 + 1, found.2)

/-- A count of elements. -/
def elements (count : Nat) : String :=
  if count = 1 then "1 element" else toString count ++ " elements"

namespace Fields

variable {α β : Type}

/-! ## Building -/

/-- A field that must be there. -/
def required (before : Fields (β → α)) (name : String) (read : Reader β) : Fields α :=
  .field before name read .refused

/-- One field alone. -/
def single (name : String) (read : Reader α) : Fields α := required (make id) name read

/-- A field with a default. -/
def defaulted (before : Fields (β → α)) (name : String) (read : Reader β) (value : β) : Fields α :=
  .field before name read (.anywhere value)

/-- A field that may be left out or `null`. -/
def optional (before : Fields (Option β → α)) (name : String) (read : Reader β) : Fields α :=
  .field before name (.optional read) (.anywhere none)

/-- A field that may be `null`, or left out of an object. -/
def nullable (before : Fields (Option β → α)) (name : String) (read : Reader β) : Fields α :=
  .field before name (.optional read) (.ofObjects none)

/-- The same fields for a record that is made into something else. -/
def map {β : Type} : {α : Type} → (α → β) → Fields α → Fields β
  | _, f, .make value => .make (f value)
  | _, f, .field before name read absence => .field (map (f ∘ ·) before) name read absence

/-- The names of the fields, in order. -/
def names : {α : Type} → Fields α → List String
  | _, .make _ => []
  | _, .field before name _ _ => before.names ++ [name]

/-! ## From an object -/

/-- The fields among the members of an object. -/
def ofMembers (origin : Origin) (members : List (String × Draft)) : {α : Type} → Fields α → Met α
  | _, .make value => .ok value
  | _, .field before name read absence =>
    (before.ofMembers origin members).combine <|
      match firstMember? name members with
      | some (position, draft) => (read origin draft).mapError (position, ·)
      | none =>
        match absence with
        | .refused => .error (members.length + 1, .mismatch (.missingField name))
        | .anywhere value | .ofObjects value => .ok value

/-- The first fault besides those of the fields: a second member of a known name, a member of another
name that `pass` refuses, the ending. -/
def strayFault (known : List String) (pass : Draft → Option Fault) (ending : Ending) :
    (seen : List String) → (position : Nat) → List (String × Draft) → Option (Nat × Fault)
  | _, position, [] => ending.keepFault.map (position, ·)
  | seen, position, (name, draft) :: members =>
    if name ∈ known then
      if name ∈ seen then some (position, .mismatch (.duplicateField name))
      else strayFault known pass ending (name :: seen) (position + 1) members
    else
      match pass draft with
      | some fault => some (position, fault)
      | none => strayFault known pass ending seen (position + 1) members

/-- What an object comes to when members of other names are judged by `pass`. -/
def metMembers (fields : Fields α) (pass : Draft → Option Fault) (origin : Origin)
    (members : List (String × Draft)) (ending : Ending) : Met α :=
  (match strayFault fields.names pass ending [] 0 members with
    | some met => Except.error met
    | none => .ok id : Met (α → α)).combine (fields.ofMembers origin members)

/-- The record of an object. -/
def readMembers (fields : Fields α) (pass : Draft → Option Fault) (origin : Origin)
    (members : List (String × Draft)) (ending : Ending) : Except Fault α :=
  (fields.metMembers pass origin members ending).mapError Prod.snd

/-! ## From a list -/

/-- The fields at the front of a list, with the items after them and the number of fields. -/
def ofItems (origin : Origin) (expected : String) (items : List Draft) (ending : Ending) :
    {α : Type} → Fields α → Except Fault (α × List Draft × Nat)
  | _, .make value => .ok (value, items, 0)
  | _, .field before _ read absence => do
    let (build, rest, count) ← before.ofItems origin expected items ending
    match rest with
    | item :: rest => return (build (← read origin item), rest, count + 1)
    | [] =>
      Fault.raise ending.keepFault
      match absence with
      | .anywhere value => return (build value, [], count + 1)
      | .refused | .ofObjects _ => throw (.mismatch (.invalidLength count expected))

/-- The record of a list; `expected` is what a message asks for when items are missing. -/
def readExactly (fields : Fields α) (expected : String) (origin : Origin) (items : List Draft)
    (ending : Ending) : Except Fault α := do
  let (value, rest, count) ← fields.ofItems origin expected items ending
  match rest, origin with
  | [], _ =>
    Fault.raise ending.keepFault
    return value
  | _ :: _, .text => throw .malformed
  | _ :: _, .value =>
    throw (.mismatch (.invalidLength items.length "fewer elements in array"))
  | _ :: _, .buffer =>
    throw (.mismatch (.invalidLength items.length (elements count ++ " in sequence")))

/-- The record of a list; `expected` is what a message calls the record. -/
def readItems (fields : Fields α) (expected : String) (origin : Origin) (items : List Draft)
    (ending : Ending) : Except Fault α :=
  fields.readExactly (expected ++ " with " ++ elements fields.names.length) origin items ending

/-! ## Records -/

/-- The reader of a record; `expected` is what a message calls it. -/
def reader (fields : Fields α) (expected : String) : Reader α
  | origin, .obj members ending => fields.readMembers Draft.skipFault origin members ending
  | origin, .arr items ending => fields.readItems expected origin items ending
  | _, .sealed _ _ => .error .malformed
  | _, draft => draft.refuse expected

end Fields

namespace Reader

/-- A list of two. -/
def pair {α β : Type} (first : Reader α) (second : Reader β) : Reader (α × β)
  | origin, .arr items ending =>
    (Fields.make Prod.mk
      |>.required "first" first
      |>.required "second" second).readExactly "a tuple of size 2" origin items ending
  | _, .sealed .sequence _ => .error .malformed
  | _, draft => draft.refuse "a tuple of size 2"

end Reader

end ScreenFlow
