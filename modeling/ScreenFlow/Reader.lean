import ScreenFlow.Draft

/-!
# Readers

A reader takes the value of a type from a draft, or says which fault is met first.
-/

namespace ScreenFlow

/-- Where a draft comes from. It decides how a list with too many items is refused, and which drafts
can name a variant. -/
inductive Origin
  /-- A text, read as it goes. -/
  | text
  /-- A value that was read before. -/
  | value
  /-- The part of a tagged value that is set aside until the tag is known. -/
  | buffer
  deriving DecidableEq

/-- How the values of a type are read. -/
abbrev Reader (α : Type) := Origin → Draft → Except Fault α

/-- A fault unless there is none. -/
def Fault.raise : Option Fault → Except Fault Unit
  | none => .ok ()
  | some fault => .error fault

/-- Refuse a draft of another type than expected. -/
def Draft.refuse {α : Type} (draft : Draft) (expected : String) : Except Fault α := do
  throw (.mismatch (.invalidType (← draft.found) expected))

namespace Reader

variable {α : Type}

/-! ## Scalars -/

/-- A text. -/
def text : Reader String
  | _, .str text => .ok text
  | _, draft => draft.refuse "a string"

/-- A truth value. -/
def flag : Reader Bool
  | _, .bool value => .ok value
  | _, draft => draft.refuse "a boolean"

/-- An integer from zero up to a bound. -/
def natural (bound : Nat) (expected : String) : Reader Nat
  | _, .num (.int value) =>
    if 0 ≤ value ∧ value < bound then .ok value.toNat
    else .error (.mismatch (.invalidValue (.num (.int value)) expected))
  | _, draft => draft.refuse expected

/-- An integer of 32 bits. -/
def word32 : Reader UInt32 := fun origin draft =>
  (natural (Nat.pow 2 32) "u32" origin draft).map UInt32.ofNat

/-- An integer of 64 bits. -/
def word64 : Reader UInt64 := fun origin draft =>
  (natural (Nat.pow 2 64) "usize" origin draft).map UInt64.ofNat

/-- Nothing but `null`. -/
def unit : Reader Unit
  | _, .null => .ok ()
  | _, draft => draft.refuse "unit"

/-- A value that is passed on as it is. -/
def freeForm : Reader FreeForm
  | _, draft => draft.keep

/-! ## Values of values -/

/-- A value, or `null` for none. What starts like `null` is nothing else. -/
def optional (read : Reader α) : Reader (Option α)
  | _, .null => .ok none
  | _, .unfit kept _ (some 'n') => .error kept
  | origin, draft => (read origin draft).map some

/-- A list. -/
def list (read : Reader α) : Reader (List α)
  | origin, .arr items ending => do
    let values ← items.mapM (read origin)
    Fault.raise ending.keepFault
    return values
  | _, .sealed .sequence _ => .error .malformed
  | _, draft => draft.refuse "a sequence"

/-- An object with any keys; the last member of a key stays. -/
def bindings (read : Reader α) : Reader (Bindings α)
  | origin, .obj members ending => do
    let pairs ← members.mapM fun member => do return (member.1, ← read origin member.2)
    Fault.raise ending.keepFault
    return .ofList pairs
  | _, .sealed .map _ => .error .malformed
  | _, draft => draft.refuse "a map"

end Reader

end ScreenFlow
