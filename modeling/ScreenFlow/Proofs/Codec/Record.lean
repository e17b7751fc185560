import ScreenFlow.Proofs.Codec.Value
import ScreenFlow.Reader.Fields

/-!
# Records that are read back

`Fields.Wrote` relates a record to the members that are written for it, field by field: a field is
written with a value that its reader recovers, or left out where the reader puts the same value in.
The members that are written are then read as the record (`ofMembers_of_wrote`), whatever their
order, since no name is written twice.
-/

namespace ScreenFlow

/-! ## Members of a record -/

/-- The value of a field that an object leaves out. -/
def Absence.value? {β : Type} : Absence β → Option β
  | .refused => none
  | .anywhere value | .ofObjects value => some value

namespace Fields

/-- The members written for a record, in the order of its fields. -/
inductive Wrote : {α : Type} → Fields α → α → List (String × Json) → Prop
  | make {α : Type} (value : α) : Wrote (.make value) value []
  | present {α β : Type} {before : Fields (β → α)} {name : String} {read : Reader β}
      {absence : Absence β} {build : β → α} {value : β} {written : Json}
      {members : List (String × Json)} (front : Wrote before build members)
      (recovers : Recovers read written value) :
      Wrote (.field before name read absence) (build value) (members ++ Json.always name written)
  | absent {α β : Type} {before : Fields (β → α)} {name : String} {read : Reader β}
      {absence : Absence β} {build : β → α} {value : β} {members : List (String × Json)}
      (front : Wrote before build members) (fills : absence.value? = some value) :
      Wrote (.field before name read absence) (build value) members

theorem nodup_names_iff {α β : Type} {before : Fields (β → α)} {name : String} {read : Reader β}
    {absence : Absence β} :
    (Fields.field before name read absence).names.Nodup ↔
      before.names.Nodup ∧ name ∉ before.names := by
  rw [names, ← List.concat_eq_append, List.nodup_concat, and_comm]

namespace Wrote

variable {α β : Type} {fields : Fields α} {record : α} {members : List (String × Json)}

/-- Only fields are written. -/
theorem names_subset (h : fields.Wrote record members) : members.map Prod.fst ⊆ fields.names := by
  induction h with
  | make value => exact List.nil_subset _
  | present front recovers ih =>
    rw [List.map_append, names]
    exact List.append_subset.2
      ⟨fun name hname => List.mem_append_left _ (ih hname), List.subset_append_right _ _⟩
  | absent front fills ih =>
    rw [names]
    exact fun name hname => List.mem_append_left _ (ih hname)

theorem notMem_keys {name : String} (h : fields.Wrote record members)
    (hname : name ∉ fields.names) : name ∉ members.map Prod.fst :=
  fun hmem => hname (h.names_subset hmem)

/-- No field is written twice. -/
theorem nodup (h : fields.Wrote record members) (hnames : fields.names.Nodup) :
    (members.map Prod.fst).Nodup := by
  induction h with
  | make value => exact List.nodup_nil
  | present front recovers ih =>
    obtain ⟨hfront, hfresh⟩ := nodup_names_iff.1 hnames
    rw [List.map_append, Json.always, List.map_singleton, ← List.concat_eq_append,
      List.nodup_concat]
    exact ⟨front.notMem_keys hfresh, ih hfront⟩
  | absent front fills ih => exact ih (nodup_names_iff.1 hnames).1

section Optional

variable {before : Fields (Option β → α)} {name : String} {read : Reader β} {build : Option β → α}
  {write : β → Json}

/-- A field that is left out if there is nothing to write. -/
theorem whenSome {absence : Absence (Option β)} (fills : absence.value? = some none)
    (front : before.Wrote build members) (h : Faithful read write)
    (hnull : ∀ value, write value ≠ .null) (value : Option β) :
    (Fields.field before name (.optional read) absence).Wrote (build value)
      (members ++ Json.whenSome name write value) := by
  cases value with
  | none =>
    rw [Json.whenSome, List.append_nil]
    exact front.absent fills
  | some value => exact front.present (Faithful.recovers_some (h value) (hnull value))

theorem optional (front : before.Wrote build members) (h : Faithful read write)
    (hnull : ∀ value, write value ≠ .null) (value : Option β) :
    (before.optional name read).Wrote (build value) (members ++ Json.whenSome name write value) :=
  whenSome rfl front h hnull value

theorem nullable (front : before.Wrote build members) (h : Faithful read write)
    (hnull : ∀ value, write value ≠ .null) (value : Option β) :
    (before.nullable name read).Wrote (build value) (members ++ Json.whenSome name write value) :=
  whenSome rfl front h hnull value

end Optional

/-- A field that is left out if it has its default. -/
theorem unlessDefault [DecidableEq β] {before : Fields (β → α)} {name : String} {read : Reader β}
    {build : β → α} {value usual : β} {written : Json}
    (front : before.Wrote build members) (recovers : Recovers read written value) :
    (before.defaulted name read usual).Wrote (build value)
      (members ++ if value = usual then [] else Json.always name written) := by
  by_cases h : value = usual
  · rw [if_pos h, List.append_nil]
    exact front.absent (congrArg some h.symm)
  · rw [if_neg h]
    exact front.present recovers

/-- The record made into something else is written alike. -/
theorem map (h : fields.Wrote record members) (f : α → β) :
    (fields.map f).Wrote (f record) members := by
  induction h generalizing β with
  | make value => exact .make (f value)
  | present front recovers ih => exact (ih (f ∘ ·)).present recovers
  | absent front fills ih => exact (ih (f ∘ ·)).absent fills

end Wrote

/-! ## Reading the members -/

theorem map_snd_firstMember? (name : String) (members : List (String × Draft)) :
    (firstMember? name members).map Prod.snd = members.lookup name := by
  induction members with
  | nil => rfl
  | cons member members ih =>
    rw [firstMember?, Bindings.lookup_cons, ← ih]
    by_cases h : member.1 = name
    · rw [if_pos h, if_pos h.symm]
      rfl
    · rw [if_neg h, if_neg (Ne.symm h), Option.map_map]
      rfl

section Reading

variable {α : Type} {fields : Fields α} {record : α} {members : List (String × Json)}
  {drafts : List (String × Draft)} {form : Form}

/-- Members that agree with the written ones by name are read as the record. -/
theorem ofMembers_of_wrote (origin : Origin)
    (h : fields.Wrote record members) (hnames : fields.names.Nodup)
    (hagree : ∀ name ∈ fields.names, drafts.lookup name = (members.lookup name).map form.draft) :
    fields.ofMembers origin drafts = .ok record := by
  induction h with
  | make value => rfl
  | @present α β before name read absence build value written members front recovers ih =>
    obtain ⟨hfront, hfresh⟩ := nodup_names_iff.1 hnames
    -- The last member is of no name that comes before, so both parts can be looked up apart.
    have hbefore : before.ofMembers origin drafts = .ok build := by
      refine ih hfront fun other hother => ?_
      have hne : other ≠ name := fun heq => hfresh (heq ▸ hother)
      rw [hagree other (List.mem_append_left _ hother), List.lookup_append, Json.always,
        Bindings.lookup_cons, if_neg hne, List.lookup_nil, Option.or_none]
    have hfield : drafts.lookup name = some (form.draft written) := by
      have hnone := lookup_eq_none_of_notMem (front.notMem_keys hfresh)
      rw [hagree name (List.mem_append_right _ List.mem_cons_self), List.lookup_append, hnone,
        Json.always, List.lookup_cons_self]
      rfl
    rw [← map_snd_firstMember?] at hfield
    obtain ⟨⟨position, draft⟩, hfirst, rfl⟩ := Option.map_eq_some_iff.1 hfield
    show (before.ofMembers origin drafts).combine _ = _
    rw [hbefore, hfirst]
    show Met.combine _ ((read origin (form.draft written)).mapError _) = _
    rw [recovers form origin]
    rfl
  | @absent α β before name read absence build value members front fills ih =>
    obtain ⟨hfront, hfresh⟩ := nodup_names_iff.1 hnames
    have hbefore : before.ofMembers origin drafts = .ok build :=
      ih hfront fun other hother => hagree other (List.mem_append_left _ hother)
    have hfield : drafts.lookup name = none := by
      rw [hagree name (List.mem_append_right _ List.mem_cons_self),
        lookup_eq_none_of_notMem (front.notMem_keys hfresh), Option.map_none]
    rw [← map_snd_firstMember?] at hfield
    have hfirst := Option.map_eq_none_iff.1 hfield
    show (before.ofMembers origin drafts).combine _ = _
    rw [hbefore, hfirst]
    cases absence with
    | refused => cases fills
    | anywhere other | ofObjects other =>
      obtain rfl := Option.some.inj fills
      rfl

/-- Members of distinct names without damage hold no fault besides those of the fields. -/
theorem strayFault_eq_none {known : List String} {pass : Draft → Option Fault} {seen : List String}
    {members : List (String × Draft)} (hnodup : (members.map Prod.fst).Nodup)
    (hseen : ∀ name ∈ members.map Prod.fst, name ∉ seen)
    (hpass : ∀ member ∈ members, pass member.2 = none) (position : Nat) :
    strayFault known pass .closed seen position members = none := by
  induction members generalizing seen position with
  | nil => rfl
  | cons member members ih =>
    obtain ⟨hfresh, hrest⟩ := List.nodup_cons.1 hnodup
    have hlater := fun seen (hseen : ∀ name ∈ members.map Prod.fst, name ∉ seen) =>
      ih hrest hseen (fun other hother => hpass other (List.mem_cons_of_mem _ hother))
        (position + 1)
    rw [strayFault, if_neg (hseen member.1 List.mem_cons_self), hpass member List.mem_cons_self]
    split
    · refine hlater _ fun name hname => ?_
      rw [List.mem_cons, not_or]
      exact ⟨fun heq => hfresh (heq ▸ hname), hseen name (List.mem_cons_of_mem _ hname)⟩
    · exact hlater _ fun name hname => hseen name (List.mem_cons_of_mem _ hname)

theorem readMembers_of_lays {others : List (String × Json)} {pass : Draft → Option Fault}
    (origin : Origin) (hlays : form.Lays others drafts)
    (h : fields.Wrote record members) (hnames : fields.names.Nodup)
    (hagree : ∀ name ∈ fields.names, others.lookup name = members.lookup name)
    (hpass : ∀ member ∈ drafts, pass member.2 = none) :
    fields.readMembers pass origin drafts .closed = .ok record := by
  have hrecord : fields.ofMembers origin drafts = .ok record :=
    ofMembers_of_wrote origin h hnames fun name hname => by rw [hlays.lookup, hagree name hname]
  rw [readMembers, metMembers, strayFault_eq_none hlays.nodup (fun _ _ => List.not_mem_nil) hpass,
    hrecord]
  rfl

/-- The members of a record alone, the others passed over. -/
theorem readMembers_of_wrote (origin : Origin) (hlays : form.Lays members drafts)
    (h : fields.Wrote record members) (hnames : fields.names.Nodup) :
    fields.readMembers Draft.skipFault origin drafts .closed = .ok record :=
  readMembers_of_lays origin hlays h hnames (fun _ _ => rfl) fun member hmember =>
    (hlays.undamaged member hmember).2

/-- One member among others. -/
theorem readMembers_single {read : Reader α} {name : String} {written : Json} {value : α}
    (origin : Origin) (hlays : form.Lays members drafts)
    (hmember : members.lookup name = some written) (h : Recovers read written value) :
    (single name read).readMembers Draft.keepFault origin drafts .closed = .ok value := by
  refine readMembers_of_lays origin hlays ((Wrote.make id).present h) (List.nodup_singleton name)
    (fun other hother => ?_) fun member hmember => (hlays.undamaged member hmember).1
  obtain rfl := List.mem_singleton.1 hother
  rw [hmember, Json.always, List.nil_append, List.lookup_cons_self]

/-- A record is recovered from the members that are written for it. -/
theorem recovers (expected : String) (h : fields.Wrote record members)
    (hnames : fields.names.Nodup) : Recovers (fields.reader expected) (.obj members) record := by
  intro form origin
  obtain ⟨drafts, hdraft, hlays⟩ := form.exists_lays (h.nodup hnames)
  rw [hdraft]
  exact readMembers_of_wrote origin hlays h hnames

end Reading

/-! ## What a record is made of -/

/-- Whatever the fields hold, what is made of them has a property. -/
def Makes : {α : Type} → (α → Prop) → Fields α → Prop
  | _, holds, .make value => holds value
  | _, holds, .field before _ _ _ => before.Makes fun build => ∀ value, holds (build value)

theorem combine_eq_ok_iff {α β : Type} {build : Met (β → α)} {value : Met β} {result : α} :
    build.combine value = .ok result ↔ ∃ f x, build = .ok f ∧ value = .ok x ∧ f x = result := by
  cases build <;> cases value <;> simp [Met.combine]

section Makes

variable {α : Type} {fields : Fields α} {holds : α → Prop} {record : α}

theorem holds_of_ofMembers {origin : Origin} {members : List (String × Draft)}
    (hmakes : fields.Makes holds) (h : fields.ofMembers origin members = .ok record) :
    holds record := by
  induction fields with
  | make value =>
    obtain rfl := Except.ok.inj h
    exact hmakes
  | field before name read absence ih =>
    obtain ⟨build, value, hbuild, _, rfl⟩ := combine_eq_ok_iff.1 h
    exact ih hmakes hbuild value

theorem holds_of_ofItems {origin : Origin} {expected : String} {items rest : List Draft}
    {ending : Ending} {count : Nat} (hmakes : fields.Makes holds)
    (h : fields.ofItems origin expected items ending = .ok (record, rest, count)) :
    holds record := by
  induction fields generalizing rest count with
  | make value =>
    obtain ⟨rfl, _⟩ := Prod.mk.inj (Except.ok.inj h)
    exact hmakes
  | field before name read absence ih =>
    obtain ⟨⟨build, later, _⟩, hbuild, h⟩ := bind_eq_ok_iff.1 h
    have hvalue := ih hmakes hbuild
    cases later with
    | cons item later =>
      obtain ⟨value, _, h⟩ := bind_eq_ok_iff.1 h
      obtain ⟨rfl, _⟩ := Prod.mk.inj (pure_eq_ok_iff.1 h)
      exact hvalue value
    | nil =>
      obtain ⟨_, _, h⟩ := bind_eq_ok_iff.1 h
      cases absence with
      | refused | ofObjects _ => cases h
      | anywhere value =>
        obtain ⟨rfl, _⟩ := Prod.mk.inj (pure_eq_ok_iff.1 h)
        exact hvalue value

theorem holds_of_readMembers {pass : Draft → Option Fault} {origin : Origin}
    {members : List (String × Draft)} {ending : Ending} (hmakes : fields.Makes holds)
    (h : fields.readMembers pass origin members ending = .ok record) : holds record := by
  obtain ⟨f, value, hf, hvalue, rfl⟩ := combine_eq_ok_iff.1 (mapError_eq_ok_iff.1 h)
  split at hf
  · cases hf
  · obtain rfl := Except.ok.inj hf
    exact holds_of_ofMembers hmakes hvalue

/-- A record that is read has every property of what its fields make. -/
theorem holds_of_reader (holds : α → Prop) {expected : String} {origin : Origin} {draft : Draft}
    (hmakes : fields.Makes holds)
    (h : fields.reader expected origin draft = .ok record) : holds record := by
  cases draft with
  | obj members ending => exact holds_of_readMembers hmakes h
  | arr items ending =>
    obtain ⟨⟨value, rest, count⟩, hitems, h⟩ := bind_eq_ok_iff.1 h
    have hvalue := holds_of_ofItems hmakes hitems
    cases rest with
    | nil =>
      obtain ⟨_, _, h⟩ := bind_eq_ok_iff.1 h
      obtain rfl := pure_eq_ok_iff.1 h
      exact hvalue
    | cons item rest => cases origin <;> cases h
  | null | bool | num | str | unfit | «sealed» => cases h

end Makes

end Fields

end ScreenFlow
