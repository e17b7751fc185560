import ScreenFlow.Binary64
import ScreenFlow.Bindings

/-!
# JSON values

A value keeps its members in the order in which they are written. Free-form values, which the program
only passes on, are kept in one canonical form: every object has its members in key order, one of
each key (`Json.Ordered`). `Json.normalize` brings a value there, the last member of a key staying.
-/

namespace ScreenFlow

/-- An integer of 64 bits, or a binary64 number. -/
inductive Number
  | int (value : Int)
  | float (value : Binary64)
  deriving DecidableEq

/-- A JSON value. -/
inductive Json
  | null
  | bool (value : Bool)
  | num (value : Number)
  | str (text : String)
  | arr (items : List Json)
  | obj (members : List (String × Json))

namespace Json

instance : Inhabited Json := ⟨.null⟩

/-! ## Equality -/

mutual

/-- Whether two values are the same, members in the same order. -/
def same : Json → Json → Bool
  | null, null => true
  | bool x, bool y => x == y
  | num x, num y => x == y
  | str x, str y => x == y
  | arr xs, arr ys => sameItems xs ys
  | obj xs, obj ys => sameMembers xs ys
  | _, _ => false

def sameItems : List Json → List Json → Bool
  | [], [] => true
  | x :: xs, y :: ys => same x y && sameItems xs ys
  | _, _ => false

def sameMembers : List (String × Json) → List (String × Json) → Bool
  | [], [] => true
  | (key, x) :: xs, (other, y) :: ys => key == other && same x y && sameMembers xs ys
  | _, _ => false

end

mutual

theorem same_iff : ∀ {x y : Json}, same x y = true ↔ x = y
  | null, y => by cases y <;> simp [same]
  | bool _, y => by cases y <;> simp [same]
  | num _, y => by cases y <;> simp [same]
  | str _, y => by cases y <;> simp [same]
  | arr _, y => by cases y <;> simp [same, sameItems_iff]
  | obj _, y => by cases y <;> simp [same, sameMembers_iff]

theorem sameItems_iff : ∀ {xs ys : List Json}, sameItems xs ys = true ↔ xs = ys
  | [], ys => by cases ys <;> simp [sameItems]
  | _ :: _, ys => by cases ys <;> simp [sameItems, same_iff, sameItems_iff]

theorem sameMembers_iff : ∀ {xs ys : List (String × Json)}, sameMembers xs ys = true ↔ xs = ys
  | [], ys => by cases ys <;> simp [sameMembers]
  | _ :: _, ys => by
    cases ys <;> simp [sameMembers, same_iff, sameMembers_iff, Prod.ext_iff]

end

instance : DecidableEq Json := fun _ _ => decidable_of_iff _ same_iff

/-! ## Canonical form -/

mutual

/-- Every object, at any depth, has its members in strictly increasing key order. -/
def Ordered : Json → Prop
  | arr items => OrderedItems items
  | obj members => members.Pairwise (·.1 < ·.1) ∧ OrderedMembers members
  | _ => True

def OrderedItems : List Json → Prop
  | [] => True
  | item :: items => Ordered item ∧ OrderedItems items

def OrderedMembers : List (String × Json) → Prop
  | [] => True
  | (_, value) :: members => Ordered value ∧ OrderedMembers members

end

mutual

/-- Bring every object into key order; the last member of a key stays. -/
def normalize : Json → Json
  | arr items => arr (normalizeItems items)
  | obj members => obj (Bindings.ofList (normalizeMembers members)).entries
  | value => value

def normalizeItems : List Json → List Json
  | [] => []
  | item :: items => normalize item :: normalizeItems items

def normalizeMembers : List (String × Json) → List (String × Json)
  | [] => []
  | (key, value) :: members => (key, normalize value) :: normalizeMembers members

end

theorem orderedMembers_iff : ∀ {members : List (String × Json)},
    OrderedMembers members ↔ ∀ member ∈ members, Ordered member.2
  | [] => by simp [OrderedMembers]
  | _ :: _ => by simp [OrderedMembers, orderedMembers_iff]

mutual

theorem ordered_normalize : ∀ value : Json, (normalize value).Ordered
  | null | bool _ | num _ | str _ => trivial
  | arr items => by
    rw [normalize, Ordered]
    exact orderedItems_normalizeItems items
  | obj members => by
    rw [normalize, Ordered]
    refine ⟨Bindings.sorted _, orderedMembers_iff.2 fun member h => ?_⟩
    exact ordered_of_mem_normalizeMembers members member (Bindings.mem_of_mem_ofList h)

theorem orderedItems_normalizeItems : ∀ items : List Json, OrderedItems (normalizeItems items)
  | [] => trivial
  | item :: items => ⟨ordered_normalize item, orderedItems_normalizeItems items⟩

theorem ordered_of_mem_normalizeMembers : ∀ (members : List (String × Json)) (member : String × Json),
    member ∈ normalizeMembers members → Ordered member.2
  | (key, value) :: members, member, h => by
    rw [normalizeMembers] at h
    rcases List.mem_cons.1 h with rfl | h
    · exact ordered_normalize value
    · exact ordered_of_mem_normalizeMembers members member h

end

mutual

theorem normalize_of_ordered : ∀ {value : Json}, value.Ordered → normalize value = value
  | null, _ | bool _, _ | num _, _ | str _, _ => by simp [normalize]
  | arr items, h => by rw [normalize, normalizeItems_of_ordered h]
  | obj members, h => by
    rw [normalize, normalizeMembers_of_ordered h.2, Bindings.entries_ofList_of_sorted h.1]

theorem normalizeItems_of_ordered : ∀ {items : List Json}, OrderedItems items →
    normalizeItems items = items
  | [], _ => rfl
  | _ :: _, h => by rw [normalizeItems, normalize_of_ordered h.1, normalizeItems_of_ordered h.2]

theorem normalizeMembers_of_ordered : ∀ {members : List (String × Json)}, OrderedMembers members →
    normalizeMembers members = members
  | [], _ => rfl
  | (_, _) :: _, h => by
    rw [normalizeMembers, normalize_of_ordered h.1, normalizeMembers_of_ordered h.2]

end

end Json

/-- A JSON value that is passed on as it is, in canonical form. -/
structure FreeForm where
  json : Json
  ordered : json.Ordered

namespace FreeForm

/-- The canonical form of a value. -/
def ofJson (json : Json) : FreeForm := ⟨json.normalize, json.ordered_normalize⟩

instance : DecidableEq FreeForm := fun x y =>
  decidable_of_iff (x.json = y.json) (by cases x; cases y; simp)

@[simp] theorem ofJson_json (value : FreeForm) : ofJson value.json = value := by
  cases value with
  | mk json h => simp [ofJson, Json.normalize_of_ordered h]

/-- The value `null`, which stands for an absent one. -/
def null : FreeForm := ⟨.null, trivial⟩

end FreeForm

end ScreenFlow
