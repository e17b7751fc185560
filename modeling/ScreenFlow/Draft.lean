import ScreenFlow.Fault

/-!
# Drafts

A draft is what a text holds where a JSON value is due: the value, with every damage kept where it
stands. Reading a document meets its parts in the order in which they are written, and a damage only
matters to a reader that comes to it, so text and mismatches are judged together.

A value is either kept or passed over. Passing over is more lenient: it checks neither surrogate
escapes nor the range of numbers, and it has no limit of nesting. `Draft.keepFault` and
`Draft.skipFault` are the first fault of either.
-/

namespace ScreenFlow

/-- How a list of items or members ends. -/
inductive Ending
  | closed
  /-- Neither a comma nor the closing bracket follows. -/
  | cut (fault : Fault)
  /-- The name of a member is due, and none that can be kept is there. -/
  | nameless (kept : Fault) (skipped : Option Fault)

/-- A JSON value with its damage in place. -/
inductive Draft
  | null
  | bool (value : Bool)
  | num (value : Number)
  | str (text : String)
  | arr (items : List Draft) (ending : Ending)
  | obj (members : List (String × Draft)) (ending : Ending)
  /-- No value that can be kept; `first` is the first character of a damaged word or number. -/
  | unfit (kept : Fault) (skipped : Option Fault) (first : Option Char)
  /-- A container that is nested too deeply to be opened. -/
  | sealed (shape : Shape) (skipped : Option Fault)

/-- The fault of an ending for a reader that keeps the members. -/
def Ending.keepFault : Ending → Option Fault
  | .closed => none
  | .cut fault => some fault
  | .nameless kept _ => some kept

/-- The fault of an ending for a reader that passes the members over. -/
def Ending.skipFault : Ending → Option Fault
  | .closed => none
  | .cut fault => some fault
  | .nameless _ skipped => skipped

namespace Draft

/-- No value at all. -/
def broken (fault : Fault) : Draft := .unfit fault (some fault) none

instance : Inhabited Draft := ⟨.broken .malformed⟩

/-- What a message says that stands here. -/
def found : Draft → Except Fault Found
  | null => .ok .null
  | bool value => .ok (.bool value)
  | num value => .ok (.num value)
  | str text => .ok (.str text)
  | arr _ _ => .ok (.container .sequence)
  | obj _ _ => .ok (.container .map)
  | unfit kept _ _ => .error kept
  | .sealed shape _ => .ok (.container shape)

/-! ## Faults -/

mutual

/-- The first fault met by a reader that keeps the whole value. -/
def keepFault : Draft → Option Fault
  | arr items ending => keepFaultItems items <|> ending.keepFault
  | obj members ending => keepFaultMembers members <|> ending.keepFault
  | unfit kept _ _ => some kept
  | .sealed _ _ => some .malformed
  | _ => none

def keepFaultItems : List Draft → Option Fault
  | [] => none
  | item :: items => keepFault item <|> keepFaultItems items

def keepFaultMembers : List (String × Draft) → Option Fault
  | [] => none
  | (_, value) :: members => keepFault value <|> keepFaultMembers members

end

mutual

/-- The first fault met by a reader that passes the value over. -/
def skipFault : Draft → Option Fault
  | arr items ending => skipFaultItems items <|> ending.skipFault
  | obj members ending => skipFaultMembers members <|> ending.skipFault
  | unfit _ skipped _ => skipped
  | .sealed _ skipped => skipped
  | _ => none

def skipFaultItems : List Draft → Option Fault
  | [] => none
  | item :: items => skipFault item <|> skipFaultItems items

def skipFaultMembers : List (String × Draft) → Option Fault
  | [] => none
  | (_, value) :: members => skipFault value <|> skipFaultMembers members

end

/-! ## Values without damage -/

mutual

/-- A value as a draft. -/
def ofJson : Json → Draft
  | .null => null
  | .bool value => bool value
  | .num value => num value
  | .str text => str text
  | .arr items => arr (ofItems items) .closed
  | .obj members => obj (ofMembers members) .closed

def ofItems : List Json → List Draft
  | [] => []
  | item :: items => ofJson item :: ofItems items

def ofMembers : List (String × Json) → List (String × Draft)
  | [] => []
  | (key, value) :: members => (key, ofJson value) :: ofMembers members

end

mutual

/-- The value of a draft, as far as it goes. -/
def toJson : Draft → Json
  | bool value => .bool value
  | num value => .num value
  | str text => .str text
  | arr items _ => .arr (toItems items)
  | obj members _ => .obj (toMembers members)
  | _ => .null

def toItems : List Draft → List Json
  | [] => []
  | item :: items => toJson item :: toItems items

def toMembers : List (String × Draft) → List (String × Json)
  | [] => []
  | (key, value) :: members => (key, toJson value) :: toMembers members

end

mutual

@[simp] theorem toJson_ofJson : ∀ value : Json, (ofJson value).toJson = value
  | .null | .bool _ | .num _ | .str _ => by simp [ofJson, toJson]
  | .arr items => by simp [ofJson, toJson, toItems_ofItems items]
  | .obj members => by simp [ofJson, toJson, toMembers_ofMembers members]

theorem toItems_ofItems : ∀ items : List Json, toItems (ofItems items) = items
  | [] => rfl
  | item :: items => by simp [ofItems, toItems, toJson_ofJson item, toItems_ofItems items]

theorem toMembers_ofMembers : ∀ members : List (String × Json),
    toMembers (ofMembers members) = members
  | [] => rfl
  | (_, value) :: members => by
    simp [ofMembers, toMembers, toJson_ofJson value, toMembers_ofMembers members]

end

mutual

@[simp] theorem keepFault_ofJson : ∀ value : Json, (ofJson value).keepFault = none
  | .null | .bool _ | .num _ | .str _ => by simp [ofJson, keepFault]
  | .arr items => by simp [ofJson, keepFault, keepFaultItems_ofItems items, Ending.keepFault]
  | .obj members => by simp [ofJson, keepFault, keepFaultMembers_ofMembers members, Ending.keepFault]

theorem keepFaultItems_ofItems : ∀ items : List Json, keepFaultItems (ofItems items) = none
  | [] => rfl
  | item :: items => by
    simp [ofItems, keepFaultItems, keepFault_ofJson item, keepFaultItems_ofItems items]

theorem keepFaultMembers_ofMembers : ∀ members : List (String × Json),
    keepFaultMembers (ofMembers members) = none
  | [] => rfl
  | (_, value) :: members => by
    simp [ofMembers, keepFaultMembers, keepFault_ofJson value, keepFaultMembers_ofMembers members]

end

/-- Keep a whole value that is only passed on, in canonical form. -/
def keep (draft : Draft) : Except Fault FreeForm :=
  match draft.keepFault with
  | some fault => .error fault
  | none => .ok (.ofJson draft.toJson)

@[simp] theorem keep_ofJson (value : FreeForm) : (ofJson value.json).keep = .ok value := by
  simp [keep]

end Draft

end ScreenFlow
