import ScreenFlow.Reader.Fields

/-!
# Tagged unions

A tagged value is an object in which one member, the tag, names the variant, or a list that starts
with that name. All but the tag is set aside and then read as the variant asks.
-/

namespace ScreenFlow

/-- What a variant holds. -/
inductive Body (α : Type) : Type 1
  | unit (value : α)
  | record (expected : String) (fields : Fields α)

/-- A tagged union; without a fallback other tags are refused. -/
structure Union (α : Type) : Type 1 where
  name : String
  tag : String
  variants : List (String × Body α)
  fallback : Option α

namespace Union

variable {α : Type}

/-- The place of the variant that a draft names, none for the fallback. What was set aside may also
name a variant by its place. -/
def choose (union : Union α) : Reader (Option Nat)
  | _, .str name =>
    match union.variants.findIdx? (·.1 = name) with
    | some place => .ok (some place)
    | none =>
      if union.fallback.isSome then .ok none
      else .error (.mismatch (.unknownVariant name (union.variants.map Prod.fst)))
  | .buffer, .num (.int place) =>
    if place < 0 then
      .error (.mismatch (.invalidType (.num (.int place)) "variant identifier"))
    else if place.toNat < union.variants.length then .ok (some place.toNat)
    else if union.fallback.isSome then .ok none
    else
      .error (.mismatch (.invalidValue (.num (.int place))
        ("variant index 0 <= i < " ++ toString union.variants.length)))
  | _, draft => draft.refuse "variant identifier"

/-- What the chosen variant holds. -/
def body (union : Union α) (choice : Option Nat) : Option (Body α) :=
  match choice.bind (union.variants[·]?) with
  | some variant => some variant.2
  | none => union.fallback.map .unit

/-- The chosen variant from the members set aside. -/
def ofMembers (union : Union α) (choice : Option Nat) (members : List (String × Draft)) :
    Except Fault α :=
  match union.body choice with
  | some (.unit value) => .ok value
  | some (.record _ fields) => fields.readMembers Draft.skipFault .buffer members .closed
  | none => .error .malformed

/-- The chosen variant from the items set aside. -/
def ofItems (union : Union α) (choice : Option Nat) (items : List Draft) : Except Fault α :=
  match union.body choice with
  | some (.unit value) =>
    if items.isEmpty then .ok value
    else .error (.mismatch (.invalidLength items.length (elements 0 ++ " in sequence")))
  | some (.record expected fields) => fields.readItems expected .buffer items .closed
  | none => .error .malformed

/-- The tag alone. -/
def tagField (union : Union α) : Fields (Option Nat) := .single union.tag union.choose

/-- The reader of a tagged union. -/
def reader (union : Union α) : Reader α
  | origin, .obj members ending => do
    let choice ← union.tagField.readMembers Draft.keepFault origin members ending
    union.ofMembers choice (members.filter (·.1 ≠ union.tag))
  | origin, .arr (first :: items) ending => do
    let choice ← union.choose origin first
    Fault.raise (Draft.keepFaultItems items <|> ending.keepFault)
    union.ofItems choice items
  | _, .arr [] ending => do
    Fault.raise ending.keepFault
    throw (.mismatch (.missingField union.tag))
  | _, .sealed _ _ => .error .malformed
  | _, draft => draft.refuse ("internally tagged enum " ++ union.name)

end Union

end ScreenFlow
