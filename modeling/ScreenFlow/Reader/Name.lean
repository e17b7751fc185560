import ScreenFlow.Reader

/-!
# Names

A choice without contents is written as a name, or as an object with that name as its only key and
`null` as its value. A closed choice refuses other names, an open one keeps them.
-/

namespace ScreenFlow.Reader

variable {α : Type}

/-- The choice of a name. -/
def pick (variants : List (String × α)) (name : String) : Except Fault α :=
  match variants.lookup name with
  | some value => .ok value
  | none => .error (.mismatch (.unknownVariant name (variants.map Prod.fst)))

/-- The choice of an object in a text: one member, and the closing bracket at once. -/
def namedMember (variants : List (String × α)) :
    List (String × Draft) → Ending → Except Fault α
  | [], .nameless kept _ => .error kept
  | [], _ => .error .malformed
  | (name, draft) :: members, ending => do
    let value ← pick variants name
    unit .text draft
    match members, ending with
    | [], .closed => return value
    | [], .cut fault => throw fault
    | _, _ => throw .malformed

/-- The choice of a name that stands alone. -/
def bareName (variants : List (String × α)) : Reader α
  | _, .str name => pick variants name
  | _, draft => draft.refuse "variant identifier"

/-- A closed choice. A text is only looked at if it starts like a name or an object. -/
def closedName (variants : List (String × α)) : Reader α
  | _, .str name => pick variants name
  | .text, .obj members ending => namedMember variants members ending
  | .text, .unfit kept _ none => .error kept
  | .text, _ => .error .malformed
  | origin, .obj [(name, draft)] _ => do
    let value ← pick variants name
    unit origin draft
    return value
  | _, .obj _ _ =>
    .error (.mismatch (.invalidValue (.container .map) "map with a single key"))
  | _, draft => draft.refuse "string or map"

/-- An open choice: `ofName` says what each name means, and only the known ones may be keys. -/
def openName (type : String) (known : List String) (ofName : String → α) : Reader α
  | _, draft => do
    Fault.raise draft.keepFault
    match draft with
    | .str name => return ofName name
    | .obj [(name, .null)] _ =>
      if name ∈ known then return ofName name else throw (.mismatch (.noVariant type))
    | _ => throw (.mismatch (.noVariant type))

end ScreenFlow.Reader
