import ScreenFlow.Proofs.Codec.Canonical
import ScreenFlow.Proofs.Codec.Reading

/-!
# Readers that agree on a value and its canonical form

A value is read as it is written, or in its canonical form. Two ways to read something tally
(`Tallies`) if they never come to different results, and if, under a condition, neither comes to one
without the other. A reader agrees (`Reader.Agrees`) if its two ways tally on every value, the
condition being that no object of the value repeats a name. This goes through all that readers are
made of, so a record agrees if the readers of its fields do.
-/

namespace ScreenFlow

/-! ## Results that tally -/

/-- Two ways to a result never come to different ones, and under a condition they come to results in
the same cases. -/
structure Tallies {α : Type} (strict : Prop) (first second : α → Prop) : Prop where
  same : ∀ x y, first x → second y → x = y
  reads : strict → ((∃ x, first x) ↔ ∃ y, second y)

namespace Tallies

variable {α β : Type} {strict : Prop}

/-- Two ways that come to the same, and to one result at most. -/
theorem of_iff {first second : α → Prop} (h : ∀ x, first x ↔ second x)
    (hunique : ∀ x y, first x → first y → x = y) : Tallies strict first second where
  same := fun x y hx hy => hunique x y hx ((h y).2 hy)
  reads := fun _ => exists_congr h

theorem of_eq {ε δ : Type} {check : Except ε α} {other : Except δ α}
    (h : ∀ x, check = .ok x ↔ other = .ok x) :
    Tallies strict (fun x => check = .ok x) fun y => other = .ok y :=
  .of_iff h fun _ _ hx hy => Except.ok.inj (hx.symm.trans hy)

theorem congr {first second third fourth : α → Prop} (h : Tallies strict first second)
    (hfirst : ∀ x, third x ↔ first x) (hsecond : ∀ x, fourth x ↔ second x) :
    Tallies strict third fourth := by
  obtain rfl : third = first := funext fun x => propext (hfirst x)
  obtain rfl : fourth = second := funext fun x => propext (hsecond x)
  exact h

theorem mono {loose : Prop} {first second : α → Prop} (h : Tallies strict first second)
    (hstrict : loose → strict) : Tallies loose first second :=
  ⟨h.same, fun hloose => h.reads (hstrict hloose)⟩

/-- Where nothing is come to at all on either side. -/
theorem never {first second : α → Prop} (hfirst : ∀ x, ¬ first x)
    (hsecond : strict → ∀ x, ¬ second x) : Tallies strict first second where
  same := fun x _ hx => absurd hx (hfirst x)
  reads := fun hstrict => by
    simp only [hfirst, hsecond hstrict, exists_false]

/-- One step after another. -/
theorem bind {first second : α → Prop} {next other : α → β → Prop} (h : Tallies strict first second)
    (hnext : ∀ x, first x → second x → Tallies strict (next x) (other x)) :
    Tallies strict (fun r => ∃ x, first x ∧ next x r) fun r => ∃ x, second x ∧ other x r where
  same := by
    rintro r s ⟨x, hx, hr⟩ ⟨y, hy, hs⟩
    obtain rfl := h.same x y hx hy
    exact (hnext x hx hy).same r s hr hs
  reads := by
    intro hstrict
    constructor
    · rintro ⟨r, x, hx, hr⟩
      obtain ⟨y, hy⟩ := (h.reads hstrict).1 ⟨x, hx⟩
      obtain rfl := h.same x y hx hy
      obtain ⟨s, hs⟩ := ((hnext x hx hy).reads hstrict).1 ⟨r, hr⟩
      exact ⟨s, x, hy, hs⟩
    · rintro ⟨s, y, hy, hs⟩
      obtain ⟨x, hx⟩ := (h.reads hstrict).2 ⟨y, hy⟩
      obtain rfl := h.same x y hx hy
      obtain ⟨r, hr⟩ := ((hnext x hx hy).reads hstrict).2 ⟨s, hs⟩
      exact ⟨r, x, hx, hr⟩

theorem map {first second : α → Prop} (h : Tallies strict first second) (f : α → β) :
    Tallies strict (fun r => ∃ x, first x ∧ f x = r) fun r => ∃ x, second x ∧ f x = r :=
  h.bind fun _ _ _ => ⟨fun _ _ hr hs => hr.symm.trans hs, fun _ => Iff.rfl⟩

/-- A condition on both sides, which the second meets more easily. -/
theorem guard {once other : Prop} {first second : α → Prop} (hother : once → other)
    (honce : strict → other → once) (h : once → Tallies strict first second) :
    Tallies strict (fun x => once ∧ first x) fun x => other ∧ second x where
  same := fun x y hx hy => (h hx.1).same x y hx.2 hy.2
  reads := by
    intro hstrict
    constructor
    · rintro ⟨x, hx, hfirst⟩
      obtain ⟨y, hy⟩ := ((h hx).reads hstrict).1 ⟨x, hfirst⟩
      exact ⟨y, hother hx, hy⟩
    · rintro ⟨y, hy, hsecond⟩
      have hx := honce hstrict hy
      obtain ⟨x, hfirst⟩ := ((h hx).reads hstrict).2 ⟨y, hsecond⟩
      exact ⟨x, hx, hfirst⟩

/-- Whatever is come to on one side is come to on the other. -/
theorem iff {first second : α → Prop} (h : Tallies strict first second) (hstrict : strict) (x : α) :
    first x ↔ second x := by
  constructor
  · intro hx
    obtain ⟨y, hy⟩ := (h.reads hstrict).1 ⟨x, hx⟩
    rw [h.same x y hx hy]
    exact hy
  · intro hy
    obtain ⟨y, hx⟩ := (h.reads hstrict).2 ⟨x, hy⟩
    rw [← h.same y x hx hy]
    exact hx

/-- Results for all entries of a list. -/
theorem forall₂ {γ : Type} {first second : γ → α → Prop} {entries : List γ}
    (h : ∀ entry ∈ entries, Tallies strict (first entry) (second entry)) :
    Tallies strict (List.Forall₂ first entries) (List.Forall₂ second entries) := by
  induction entries with
  | nil =>
    constructor
    · intro x y hx hy
      rw [List.forall₂_nil_left_iff.1 hx, List.forall₂_nil_left_iff.1 hy]
    · exact fun _ => ⟨fun _ => ⟨[], .nil⟩, fun _ => ⟨[], .nil⟩⟩
  | cons entry entries ih =>
    rw [List.forall_mem_cons] at h
    have hrest := ih h.2
    have hall := h.1.bind fun x _ _ => hrest.map (x :: ·)
    refine hall.congr (fun results => ?_) fun results => ?_
    · rw [List.forall₂_cons_left_iff]
      simp only [@eq_comm _ results, exists_and_left]
    · rw [List.forall₂_cons_left_iff]
      simp only [@eq_comm _ results, exists_and_left]

end Tallies

/-! ## Readers -/

/-- Two origins are treated alike by whatever names a variant. -/
def Origin.Like (first second : Origin) : Prop := first = .buffer ↔ second = .buffer

/-- What is read of a value and of its canonical form tallies. -/
def Reader.Agrees {α : Type} (read : Reader α) : Prop :=
  ∀ first second : Origin, first.Like second → ∀ json : Json,
    Tallies json.Distinct (fun value => read first (.ofJson json) = .ok value)
      fun value => read second (.ofJson json.normalize) = .ok value

namespace Reader.Agrees

variable {α : Type} {read : Reader α}

theorem text : Agrees Reader.text := by
  intro first second _ json
  refine .of_eq fun value => ?_
  cases json <;> rfl

theorem flag : Agrees Reader.flag := by
  intro first second _ json
  refine .of_eq fun value => ?_
  cases json <;> rfl

theorem natural (bound : Nat) (expected : String) : Agrees (Reader.natural bound expected) := by
  intro first second _ json
  refine .of_eq fun value => ?_
  cases json with
  | num number => cases number <;> rfl
  | null | bool | str | arr | obj => rfl

theorem freeForm : Agrees Reader.freeForm := by
  intro first second _ json
  refine .of_eq fun value => ?_
  have hkeep : ∀ other : Json, (Draft.ofJson other).keep = .ok (FreeForm.ofJson other) := by
    intro other
    unfold Draft.keep
    rw [Draft.keepFault_ofJson, Draft.toJson_ofJson]
  have hsame : FreeForm.ofJson json.normalize = FreeForm.ofJson json := by
    unfold FreeForm.ofJson
    simp only [Json.normalize_of_ordered json.ordered_normalize]
  show (Draft.ofJson json).keep = _ ↔ (Draft.ofJson json.normalize).keep = _
  rw [hkeep, hkeep, hsame]

/-! ## Values of values -/

theorem map {β : Type} (h : read.Agrees) (f : α → β) :
    Agrees fun origin draft => (read origin draft).map f := by
  intro first second hlike json
  exact ((h first second hlike json).map f).congr (fun _ => map_eq_ok_iff) fun _ => map_eq_ok_iff

theorem word32 : Agrees Reader.word32 := (natural (Nat.pow 2 32) "u32").map UInt32.ofNat

theorem word64 : Agrees Reader.word64 := (natural (Nat.pow 2 64) "usize").map UInt64.ofNat

theorem normalize_eq_null_iff {json : Json} : json.normalize = .null ↔ json = .null := by
  cases json <;> simp [Json.normalize]

theorem optional (h : read.Agrees) : Agrees (Reader.optional read) := by
  intro first second hlike json
  by_cases hnull : json = .null
  · subst hnull
    exact .of_eq fun value => Iff.rfl
  · rw [Reader.optional_of_ne_null hnull,
      Reader.optional_of_ne_null (mt normalize_eq_null_iff.1 hnull)]
    exact h.map some first second hlike json

theorem list (h : read.Agrees) : Agrees (Reader.list read) := by
  intro first second hlike json
  cases json with
  | arr items =>
    rw [Json.normalize, Json.normalizeItems_eq_map]
    have hitems : Tallies (Json.arr items).Distinct
        (List.Forall₂ (fun item value => read first (.ofJson item) = .ok value) items)
        (List.Forall₂ (fun item value => read second (.ofJson item.normalize) = .ok value) items) :=
      .forall₂ fun item hitem => (h first second hlike item).mono fun hdistinct =>
        Json.distinctItems_iff.1 hdistinct item hitem
    refine hitems.congr (fun values => Reader.list_arr_iff) fun values => ?_
    rw [Reader.list_arr_iff, List.forall₂_map_left_iff]
  | null | bool | num | str | obj => exact .never (fun _ => nofun) fun _ _ => nofun

theorem exists_forall₂_iff {α β : Type} {related : α → β → Prop} {entries : List α} :
    (∃ results, List.Forall₂ related entries results) ↔ ∀ entry ∈ entries, ∃ x, related entry x := by
  induction entries with
  | nil => exact iff_of_true ⟨[], .nil⟩ nofun
  | cons entry entries ih =>
    rw [List.forall_mem_cons, ← ih]
    constructor
    · rintro ⟨_, hall⟩
      obtain ⟨x, results, hx, hrest, rfl⟩ := List.forall₂_cons_left_iff.1 hall
      exact ⟨⟨x, hx⟩, results, hrest⟩
    · rintro ⟨⟨x, hx⟩, results, hrest⟩
      exact ⟨x :: results, .cons hx hrest⟩

/-- The members of a map can be read if each of them can. -/
theorem exists_bindings_iff {origin : Origin} {members : List (String × Json)} :
    (∃ map, Reader.bindings read origin (.ofJson (.obj members)) = .ok map) ↔
      ∀ member ∈ members, ∃ value, read origin (.ofJson member.2) = .ok value := by
  have hmember : ∀ member : String × Json, (∃ entry : String × α, member.1 = entry.1 ∧
      read origin (.ofJson member.2) = .ok entry.2) ↔
        ∃ value, read origin (.ofJson member.2) = .ok value := by
    intro member
    constructor
    · rintro ⟨entry, _, hread⟩
      exact ⟨entry.2, hread⟩
    · rintro ⟨value, hread⟩
      exact ⟨(member.1, value), rfl, hread⟩
  simp only [Reader.bindings_obj_iff, ← hmember, ← exists_forall₂_iff]
  constructor
  · rintro ⟨_, entries, hentries, _⟩
    exact ⟨entries, hentries⟩
  · rintro ⟨entries, hentries⟩
    exact ⟨_, entries, hentries, rfl⟩

/-- A map and the map of the canonical form have the same value at each key. -/
theorem bindings_same (h : read.Agrees) {first second : Origin} (hlike : first.Like second)
    {members : List (String × Json)} {map other : Bindings α}
    (hmap : Reader.bindings read first (.ofJson (.obj members)) = .ok map)
    (hother : Reader.bindings read second (.ofJson (.obj (Json.canonical members))) = .ok other) :
    map = other := by
  obtain ⟨entries, hentries, rfl⟩ := Reader.bindings_obj_iff.1 hmap
  obtain ⟨others, hothers, rfl⟩ := Reader.bindings_obj_iff.1 hother
  refine Bindings.ext_get? fun key => ?_
  -- At each key the last member stands on one side and its canonical form on the other.
  have hwritten := Bindings.rel_get?_ofList
    (fun json value => read first (.ofJson json) = .ok value) hentries key
  have hordered := Bindings.rel_get?_ofList
    (fun json value => read second (.ofJson json) = .ok value) hothers key
  have hforms : List.Forall₂ (fun member form : String × Json =>
      member.1 = form.1 ∧ member.2.normalize = form.2) members (Json.normalizeMembers members) := by
    rw [Json.normalizeMembers_eq_map, List.forall₂_map_right_iff, List.forall₂_same]
    exact fun _ _ => ⟨rfl, rfl⟩
  have hnormal := Bindings.rel_get?_ofList (fun json form : Json => json.normalize = form) hforms key
  unfold Json.canonical at hordered
  rw [Bindings.ofList_entries] at hordered
  generalize (Bindings.ofList members).get? key = member at hwritten hnormal
  generalize (Bindings.ofList (Json.normalizeMembers members)).get? key = form at hnormal hordered
  generalize (Bindings.ofList entries).get? key = value at hwritten ⊢
  generalize (Bindings.ofList others).get? key = result at hordered ⊢
  cases hnormal with
  | none =>
    cases hwritten
    cases hordered
    rfl
  | some hform =>
    cases hwritten with
    | some hvalue =>
      cases hordered with
      | some hresult =>
        rw [← hform] at hresult
        rw [(h first second hlike _).same _ _ hvalue hresult]

theorem bindings (h : read.Agrees) : Agrees (Reader.bindings read) := by
  intro first second hlike json
  cases json with
  | obj members =>
    rw [Json.normalize_obj]
    constructor
    · exact fun _ _ => h.bindings_same hlike
    · intro hdistinct
      rw [exists_bindings_iff, exists_bindings_iff]
      have hperm := Json.canonical_perm hdistinct.1
      have hvalues := Json.distinctMembers_iff.1 hdistinct.2
      simp only [hperm.mem_iff, List.forall_mem_map]
      refine forall₂_congr fun member hmember => ?_
      exact (h first second hlike member.2).reads (hvalues member hmember)
  | null | bool | num | str | arr => exact .never (fun _ => nofun) fun _ _ => nofun

/-! ## Names -/

/-- A choice that is spelled by a text or an object with one name. -/
theorem named {bare keyed : String → α → Prop}
    (h : ∀ origin json value, read origin (.ofJson json) = .ok value ↔
      (∃ name, json = .str name ∧ bare name value) ∨
        ∃ name, json = .obj [(name, .null)] ∧ keyed name value) : read.Agrees := by
  intro first second _ json
  by_cases hform : json.normalize = json
  · rw [hform]
    exact .of_eq fun value => (h first json value).trans (h second json value).symm
  · refine .never (fun value hvalue => hform ?_) fun hdistinct value hvalue => hform ?_
    · rcases (h first json value).1 hvalue with ⟨name, rfl, _⟩ | ⟨name, rfl, _⟩ <;> rfl
    · rcases (h second _ value).1 hvalue with ⟨name, hname, _⟩ | ⟨name, hname, _⟩
      · cases json with
        | null | bool | num | str => rfl
        | arr | obj => cases hname
      · cases json with
        | obj members =>
          rw [Json.normalize_obj] at hname ⊢
          have hmembers := Json.obj.inj hname
          have hperm := Json.canonical_perm hdistinct.1
          rw [hmembers, List.singleton_perm] at hperm
          obtain ⟨⟨other, value⟩, rfl, hmember⟩ := List.map_eq_singleton_iff.1 hperm.symm
          obtain ⟨rfl, hvalue⟩ := Prod.mk.inj hmember
          obtain rfl := normalize_eq_null_iff.1 hvalue
          exact hname
        | null | bool | num | str | arr => cases hname

theorem ofMembers_eq_named_iff {members : List (String × Json)} {name : String} :
    Draft.ofMembers members = [(name, .null)] ↔ members = [(name, .null)] := by
  cases members with
  | nil => exact iff_of_false nofun nofun
  | cons member members =>
    obtain ⟨other, value⟩ := member
    rw [Draft.ofMembers]
    cases members with
    | nil => cases value <;> simp [Draft.ofMembers, Draft.ofJson]
    | cons next members => simp [Draft.ofMembers]

theorem openName (type : String) (known : List String) (ofName : String → α) :
    Agrees (Reader.openName type known ofName) := by
  refine @named _ _ (fun name value => ofName name = value)
    (fun name value => name ∈ known ∧ ofName name = value) fun origin json value => ?_
  unfold Reader.openName
  simp only [Draft.keepFault_ofJson, Fault.raise, bind_eq_ok_iff]
  cases json with
  | str name => simp [Draft.ofJson, pure_eq_ok_iff]
  | obj members =>
    rw [Draft.ofJson]
    split
    · next hdraft => cases hdraft
    · next name _ hdraft =>
      rw [ofMembers_eq_named_iff.1 (Draft.obj.inj hdraft).1]
      by_cases hknown : name ∈ known <;> simp [hknown, pure_eq_ok_iff]
    · next hother =>
      refine iff_of_false nofun ?_
      rintro (⟨_, h, _⟩ | ⟨name, h, _⟩)
      · cases h
      · refine hother name .closed ?_
        rw [ofMembers_eq_named_iff.2 (Json.obj.inj h)]
  | null | bool | num | arr => exact iff_of_false nofun (by rintro (⟨_, h, _⟩ | ⟨_, h, _⟩) <;> cases h)

theorem unit_eq_ok_iff {origin : Origin} {json : Json} {nothing : Unit} :
    Reader.unit origin (.ofJson json) = .ok nothing ↔ json = .null := by
  cases json with
  | null => exact iff_of_true rfl rfl
  | bool | num | str | arr | obj => exact iff_of_false nofun nofun

/-- An object spells a closed choice by a name alone, from whatever origin. -/
theorem closedName_obj_iff {variants : List (String × α)} {origin : Origin}
    {members : List (String × Json)} {value : α} :
    Reader.closedName variants origin (.ofJson (.obj members)) = .ok value ↔
      ∃ name, members = [(name, .null)] ∧ Reader.pick variants name = .ok value := by
  rw [Draft.ofJson]
  match members with
  | [] => cases origin <;> exact iff_of_false nofun nofun
  | [(name, json)] =>
    have hread : Reader.closedName variants origin (.obj (Draft.ofMembers [(name, json)]) .closed) =
        (Reader.pick variants name >>= fun value =>
          Reader.unit origin (.ofJson json) >>= fun _ => pure value) := by
      cases origin <;> rfl
    simp only [hread, bind_eq_ok_iff, pure_eq_ok_iff, unit_eq_ok_iff]
    simp [and_comm]
  | (name, json) :: next :: rest =>
    refine iff_of_false (fun hread => ?_) nofun
    cases origin with
    | text =>
      obtain ⟨_, _, hread⟩ := bind_eq_ok_iff.1 hread
      obtain ⟨_, _, hread⟩ := bind_eq_ok_iff.1 hread
      cases hread
    | value | buffer => cases hread

theorem closedName (variants : List (String × α)) : Agrees (Reader.closedName variants) := by
  refine @named _ _ (fun name value => Reader.pick variants name = .ok value)
    (fun name value => Reader.pick variants name = .ok value) fun origin json value => ?_
  cases json with
  | str name =>
    show Reader.pick variants name = .ok value ↔ _
    simp
  | obj members =>
    rw [closedName_obj_iff]
    simp
  | null | bool | num | arr =>
    refine iff_of_false (fun h => ?_) (by rintro (⟨_, h, _⟩ | ⟨_, h, _⟩) <;> cases h)
    cases origin <;> cases h

end Reader.Agrees

/-! ## Records -/

namespace Fields

variable {α : Type} {fields : Fields α}

/-- The readers of all fields agree. -/
def Agree : {α : Type} → Fields α → Prop
  | _, .make _ => True
  | _, .field before _ read _ => before.Agree ∧ read.Agrees

theorem Agree.make (value : α) : (Fields.make value).Agree := trivial

section

variable {β : Type} {before : Fields (β → α)} {others : Fields (Option β → α)} {name : String}
  {read : Reader β}

theorem Agree.field {absence : Absence β} (h : before.Agree) (hread : read.Agrees) :
    (Fields.field before name read absence).Agree := ⟨h, hread⟩

theorem Agree.optional (h : others.Agree) (hread : read.Agrees) :
    (others.optional name read).Agree := ⟨h, hread.optional⟩

theorem Agree.nullable (h : others.Agree) (hread : read.Agrees) :
    (others.nullable name read).Agree := ⟨h, hread.optional⟩

end

theorem Agree.map {β : Type} (h : fields.Agree) (f : α → β) : (fields.map f).Agree := by
  induction fields generalizing β with
  | make value => trivial
  | field before name read absence ih => exact ⟨ih h.1 (f ∘ ·), h.2⟩

theorem count_le_one_of_once {known : List String} {members : List (String × Json)}
    (h : Once known members) {name : String} (hname : name ∈ known) :
    (members.map Prod.fst).count name ≤ 1 := by
  have hcount := List.nodup_iff_count_le_one.1 h name
  rwa [List.count_filter (by simpa using hname)] at hcount

theorem Agree.takes {fill : {β : Type} → Absence β → Option β} {first second : Origin}
    {find form : String → Option Json} {strict : Prop} (h : fields.Agree) (hlike : first.Like second)
    (hform : ∀ name ∈ fields.names, form name = (find name).map Json.normalize)
    (hdistinct : strict → ∀ name json, find name = some json → json.Distinct) :
    Tallies strict (fields.Takes fill first find) (fields.Takes fill second form) := by
  induction fields with
  | make value => exact .of_iff (fun _ => Iff.rfl) fun _ _ hx hy => hx.symm.trans hy
  | field before name read absence ih =>
    have hbefore := ih h.1 fun other hother => hform other (List.mem_append_left _ hother)
    have hname : form name = (find name).map Json.normalize :=
      hform name (List.mem_append_right _ List.mem_cons_self)
    have hvalue : Tallies strict (read.Fills first (fill absence) (find name))
        (read.Fills second (fill absence) (form name)) := by
      rw [hname]
      cases hfind : find name with
      | none => exact .of_iff (fun _ => Iff.rfl) fun _ _ hx hy => Option.some.inj (hx.symm.trans hy)
      | some json => exact (h.2 first second hlike json).mono fun hs => hdistinct hs name json hfind
    refine (hbefore.bind fun build _ _ => hvalue.map build).congr (fun record => ?_) fun record => ?_
    · simp only [Takes, exists_and_left]
    · simp only [Takes, exists_and_left]

/-- In canonical form no name comes twice, and before if no object repeats a name. -/
theorem tallies_once {known : List String} {members : List (String × Json)} {first second : α → Prop}
    (h : Once known members → Tallies (Json.obj members).Distinct first second) :
    Tallies (Json.obj members).Distinct (fun x => Once known members ∧ first x)
      fun x => Once known (Json.canonical members) ∧ second x :=
  .guard (fun _ => once_of_nodup (Json.nodup_canonical members))
    (fun hdistinct _ => once_of_nodup hdistinct.1) h

theorem Agree.members {first second : Origin} (h : fields.Agree) (hlike : first.Like second)
    (members : List (String × Json)) :
    Tallies (Json.obj members).Distinct
      (fun record => Once fields.names members ∧
        fields.Takes Absence.value? first (members.lookup ·) record)
      fun record => Once fields.names (Json.canonical members) ∧
        fields.Takes Absence.value? second ((Json.canonical members).lookup ·) record := by
  refine tallies_once fun honce => ?_
  refine h.takes hlike (fun name hname => ?_) fun hdistinct name json hfind => ?_
  · exact Json.lookup_canonical (count_le_one_of_once honce hname)
  · exact hdistinct.of_lookup hfind

theorem Agree.items {first second : Origin} (h : fields.Agree) (hlike : first.Like second)
    (items : List Json) :
    Tallies (Json.arr items).Distinct
      (fun record => items.length ≤ fields.names.length ∧
        fields.Takes Absence.trailing? first ((fields.names.zip items).lookup ·) record)
      fun record => (items.map Json.normalize).length ≤ fields.names.length ∧
        fields.Takes Absence.trailing? second
          ((fields.names.zip (items.map Json.normalize)).lookup ·) record := by
  rw [List.length_map]
  refine .guard id (fun _ => id) fun _ => ?_
  refine h.takes hlike (fun name _ => ?_) fun hdistinct name json hfind => ?_
  · rw [List.zip_map_right]
    exact lookup_map_snd _ _ _
  · obtain ⟨before, after, hzip, _⟩ := List.lookup_eq_some_iff.1 hfind
    have hmem : (name, json) ∈ fields.names.zip items := by
      rw [hzip]
      exact List.mem_append_right _ List.mem_cons_self
    exact Json.distinctItems_iff.1 hdistinct json (List.of_mem_zip hmem).2

/-- One member among others. -/
theorem tallies_member {read : Reader α} {first second : Origin} {members : List (String × Json)}
    {name : String} (h : read.Agrees) (hlike : first.Like second)
    (hcount : (members.map Prod.fst).count name ≤ 1) :
    Tallies (Json.obj members).Distinct
      (fun value => ∃ json, members.lookup name = some json ∧ read first (.ofJson json) = .ok value)
      fun value => ∃ json, (Json.canonical members).lookup name = some json ∧
        read second (.ofJson json) = .ok value := by
  rw [Json.lookup_canonical hcount]
  cases hfind : members.lookup name with
  | none => exact .never (by rintro _ ⟨_, h, _⟩; cases h) (by rintro _ _ ⟨_, h, _⟩; cases h)
  | some json =>
    simp only [Option.map_some, Option.some.injEq, exists_eq_left']
    refine (h first second hlike json).mono fun hdistinct => ?_
    exact hdistinct.of_lookup hfind

/-- A record agrees if the readers of its fields do. -/
theorem Agree.reader (h : fields.Agree) (hnames : fields.names.Nodup) (expected : String) :
    (fields.reader expected).Agrees := by
  intro first second hlike json
  cases json with
  | obj members =>
    rw [Json.normalize_obj]
    exact (h.members hlike members).congr (fun _ => reader_obj_iff) fun _ => reader_obj_iff
  | arr items =>
    rw [Json.normalize, Json.normalizeItems_eq_map]
    exact (h.items hlike items).congr (fun _ => reader_arr_iff hnames) fun _ => reader_arr_iff hnames
  | null | bool | num | str => exact .never (fun _ => nofun) fun _ _ => nofun

end Fields

/-! ## Tagged unions -/

/-- The fields of a body agree, and no two have one name. -/
def Body.Agree {α : Type} : Body α → Prop
  | .unit _ => True
  | .record _ fields => fields.Agree ∧ fields.names.Nodup

namespace Body.Agree

variable {α : Type} {body : Body α}

theorem members (h : body.Agree) (members : List (String × Json)) :
    Tallies (Json.obj members).Distinct (body.TakesMembers members ·)
      (body.TakesMembers (Json.canonical members) ·) := by
  cases body with
  | unit own => exact .of_iff (fun _ => Iff.rfl) fun _ _ hx hy => hx.symm.trans hy
  | record expected fields => exact h.1.members Iff.rfl members

theorem items (h : body.Agree) (items : List Json) :
    Tallies (Json.arr items).Distinct (body.TakesItems items ·)
      (body.TakesItems (items.map Json.normalize) ·) := by
  cases body with
  | unit own =>
    refine .of_iff (fun value => ?_) fun _ _ hx hy => hx.2.symm.trans hy.2
    show items = [] ∧ own = value ↔ items.map Json.normalize = [] ∧ own = value
    rw [List.map_eq_nil_iff]
  | record expected fields => exact h.1.items Iff.rfl items

end Body.Agree

namespace Union

variable {α : Type} {union : Union α}

/-- Only what was set aside names a variant by its place. -/
theorem choose_num_of_ne_buffer {origin : Origin} (h : origin ≠ .buffer) (number : Number) :
    union.choose origin (.num number) = (Draft.num number).refuse "variant identifier" := by
  cases origin with
  | buffer => exact absurd rfl h
  | text | value => cases number <;> rfl

/-- The place of a variant is named in canonical form alike. -/
theorem choose_agrees (union : Union α) : union.choose.Agrees := by
  intro first second hlike json
  refine .of_eq fun choice => ?_
  cases json with
  | num number =>
    show union.choose first (.num number) = _ ↔ union.choose second (.num number) = _
    by_cases hfirst : first = .buffer
    · rw [hfirst, hlike.1 hfirst]
    · rw [choose_num_of_ne_buffer hfirst, choose_num_of_ne_buffer (mt hlike.2 hfirst)]
  | null | bool | str | arr | obj => rfl

theorem tallies_body {strict : Prop} {first second : Body α → α → Prop} {choice : Option Nat}
    (h : ∀ body, union.body choice = some body → Tallies strict (first body) (second body)) :
    Tallies strict (fun value => ∃ body, union.body choice = some body ∧ first body value)
      fun value => ∃ body, union.body choice = some body ∧ second body value := by
  cases hbody : union.body choice with
  | none => exact .never (by rintro _ ⟨_, h, _⟩; cases h) (by rintro _ _ ⟨_, h, _⟩; cases h)
  | some body =>
    simp only [Option.some.injEq, exists_eq_left']
    exact h body hbody

/-- A tagged union agrees if the fields of all its variants do. -/
theorem agrees (hvariants : ∀ variant ∈ union.variants, variant.2.Agree) : union.reader.Agrees := by
  intro first second hlike json
  have h : ∀ choice body, union.body choice = some body → body.Agree := by
    intro choice body hbody
    rcases body_cases hbody with ⟨tag, hmem⟩ | ⟨value, _, rfl⟩
    · exact hvariants _ hmem
    · trivial
  have hnames : ∀ choice body, union.body choice = some body → body.names.Nodup := by
    intro choice body hbody
    have hagree := h choice body hbody
    cases body with
    | unit => exact List.nodup_nil
    | record => exact hagree.2
  cases json with
  | obj members =>
    rw [Json.normalize_obj]
    refine Tallies.congr ?_ (fun _ => reader_obj_iff) fun _ => reader_obj_iff
    refine Fields.tallies_once fun honce => ?_
    have htag := Fields.tallies_member union.choose_agrees hlike
      (Fields.count_le_one_of_once honce (List.mem_singleton_self union.tag))
    refine htag.bind fun choice _ _ => tallies_body fun body hbody => ?_
    rw [← Json.canonical_filter]
    exact ((h choice body hbody).members _).mono fun hdistinct => hdistinct.filter union.tag
  | arr items =>
    cases items with
    | nil => exact .never (fun _ => nofun) fun _ _ => nofun
    | cons item items =>
      rw [Json.normalize, Json.normalizeItems_eq_map, List.map_cons]
      refine Tallies.congr ?_ (fun _ => reader_arr_iff hnames) fun _ => reader_arr_iff hnames
      have htag := (union.choose_agrees first second hlike item).mono
        fun hdistinct : (Json.arr (item :: items)).Distinct => hdistinct.1
      refine htag.bind fun choice _ _ => tallies_body fun body hbody => ?_
      exact ((h choice body hbody).items items).mono fun hdistinct => hdistinct.2
  | null | bool | num | str => exact .never (fun _ => nofun) fun _ _ => nofun

end Union

end ScreenFlow
