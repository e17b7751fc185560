import ScreenFlow.Json.Members
import ScreenFlow.Proofs.Checks
import ScreenFlow.Proofs.Codec.Form
import ScreenFlow.Reader.Name

/-!
# Values that are read back

A reader `Recovers` a value from what is written if it takes it from either form, wherever the form
comes from. It is `Faithful` to a writer if it recovers every value. Texts, numbers and names are
recovered at once; lists, maps and optional values if their contents are.
-/

namespace ScreenFlow

/-- A reader takes a value from what is written, in either form and from any origin. -/
def Recovers {α : Type} (read : Reader α) (written : Json) (value : α) : Prop :=
  ∀ form : Form, ∀ origin, read origin (form.draft written) = .ok value

/-- A reader recovers whatever is written. -/
def Faithful {α : Type} (read : Reader α) (write : α → Json) : Prop :=
  ∀ value, Recovers read (write value) value

namespace Faithful

variable {α : Type} {read : Reader α} {write : α → Json}

/-! ## Scalars -/

theorem text : Faithful .text .str := by
  intro value form origin
  rw [Form.draft_str]
  rfl

theorem flag : Faithful .flag .bool := by
  intro value form origin
  rw [Form.draft_bool]
  rfl

/-- A number below the bound. -/
theorem recovers_natural {bound value : Nat} (expected : String) (h : value < bound) :
    Recovers (.natural bound expected) (.nat value) value := by
  intro form origin
  have hrange : (0 : Int) ≤ value ∧ (value : Int) < bound := ⟨Int.natCast_nonneg value, by omega⟩
  rw [Json.nat, Form.draft_num, Reader.natural, if_pos hrange, Int.toNat_natCast]

theorem word32 : Faithful .word32 fun value => .nat value.toNat := by
  intro value form origin
  rw [Reader.word32, recovers_natural "u32" value.toNat_lt form origin]
  show Except.ok (UInt32.ofNat value.toNat) = _
  rw [UInt32.ofNat_toNat]

theorem word64 : Faithful .word64 fun value => .nat value.toNat := by
  intro value form origin
  rw [Reader.word64, recovers_natural "usize" value.toNat_lt form origin]
  show Except.ok (UInt64.ofNat value.toNat) = _
  rw [UInt64.ofNat_toNat]

theorem freeForm : Faithful .freeForm FreeForm.json := by
  intro value form origin
  rw [form.draft_of_ordered value.ordered]
  exact Draft.keep_ofJson value

/-! ## Names -/

/-- A closed choice recovers what its list of names gives. -/
theorem recovers_closedName {variants : List (String × α)} {name : String} {value : α}
    (h : variants.lookup name = some value) :
    Recovers (.closedName variants) (.str name) value := by
  intro form origin
  rw [Form.draft_str]
  show Reader.pick variants name = _
  rw [Reader.pick, h]

/-- An open choice recovers a value if the value's name means it. -/
theorem openName {ofName : String → α} {name : α → String} (type : String) (known : List String)
    (h : ∀ value, ofName (name value) = value) :
    Faithful (.openName type known ofName) fun value => .str (name value) := by
  intro value form origin
  rw [Form.draft_str]
  show Except.ok (ofName (name value)) = _
  rw [h]

/-! ## Values of values -/

theorem list (h : Faithful read write) : Faithful (.list read) (Json.list write) := by
  intro values form origin
  rw [Json.list, Form.draft_arr, List.map_map]
  have hitems : (values.map (form.draft ∘ write)).mapM (read origin) = .ok values := by
    rw [mapM_eq_ok_iff, List.forall₂_map_left_iff, List.forall₂_same]
    exact fun value _ => h value form origin
  show (values.map (form.draft ∘ write)).mapM (read origin) >>= _ = _
  rw [hitems]
  rfl

/-- A map is in key order already. -/
theorem normalize_map (write : α → Json) (values : Bindings α) :
    (Json.map write values).normalize = Json.map (fun value => (write value).normalize) values := by
  show Json.normalize (.obj _) = .obj _
  rw [Json.normalize, Json.normalizeMembers_eq_map, List.map_map]
  refine congrArg Json.obj (Bindings.entries_ofList_of_sorted ?_)
  rw [List.pairwise_map]
  exact values.sorted

theorem draft_map (form : Form) (write : α → Json) (values : Bindings α) :
    form.draft (Json.map write values) =
      .obj (values.entries.map fun entry => (entry.1, form.draft (write entry.2))) .closed := by
  have hjson : form.json (Json.map write values) =
      Json.map (fun value => form.json (write value)) values := by
    cases form with
    | written => rfl
    | ordered => exact normalize_map write values
  rw [Form.draft, hjson, Json.map, Draft.ofJson, Draft.ofMembers_eq_map, List.map_map]
  rfl

theorem bindings (h : Faithful read write) : Faithful (.bindings read) (Json.map write) := by
  intro values form origin
  rw [draft_map]
  have hmembers : (values.entries.map fun entry => (entry.1, form.draft (write entry.2))).mapM
      (fun member => do return (member.1, ← read origin member.2)) = .ok values.entries := by
    rw [mapM_eq_ok_iff, List.forall₂_map_left_iff, List.forall₂_same]
    intro entry _
    show (read origin (form.draft (write entry.2)) >>= fun value => _) = _
    rw [h entry.2 form origin]
    rfl
  show List.mapM _ _ >>= _ = _
  rw [hmembers]
  show Except.ok (Bindings.ofList values.entries) = _
  rw [Bindings.ofList_entries]

/-- What is written and not `null` is read as some value. -/
theorem recovers_some {written : Json} {value : α} (h : Recovers read written value)
    (hnull : written ≠ .null) : Recovers (.optional read) written (some value) := by
  intro form origin
  have hread : Reader.optional read origin (form.draft written) =
      (read origin (form.draft written)).map some := by
    cases form <;> cases written <;> first | exact absurd rfl hnull | rfl
  rw [hread, h form origin]
  rfl

theorem recovers_none : Recovers (.optional read) .null none := by
  intro form origin
  rw [Form.draft_null]
  rfl

theorem orNull (h : Faithful read write) (hnull : ∀ value, write value ≠ .null) :
    Faithful (.optional read) (Json.orNull write) := by
  rintro (_ | value)
  · exact recovers_none
  · exact recovers_some (h value) (hnull value)

end Faithful

end ScreenFlow
