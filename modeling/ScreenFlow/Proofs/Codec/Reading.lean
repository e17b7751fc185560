import ScreenFlow.Proofs.Codec.Union
import ScreenFlow.Screen.Component

/-!
# What is read of a value

What a reader of a record makes of a value without damage only depends on what stands at the names of
its fields (`Fields.Takes`). In an object these are the members, of which no known name may come
twice; in a list they are the items in turn. Tagged unions and components are taken apart the same
way, so that a change to a value can be followed through all that reads it without looking at the
order in which faults are met.
-/

namespace ScreenFlow

namespace Reader

variable {α : Type} {read : Reader α} {origin : Origin}

/-! ## Lists and maps -/

theorem list_arr_iff {items : List Json} {values : List α} :
    Reader.list read origin (.ofJson (.arr items)) = .ok values ↔
      List.Forall₂ (fun item value => read origin (.ofJson item) = .ok value) items values := by
  rw [Draft.ofJson, Draft.ofItems_eq_map]
  show (List.mapM _ _ >>= _) = _ ↔ _
  rw [bind_eq_ok_iff]
  constructor
  · rintro ⟨read, hread, h⟩
    obtain rfl := pure_eq_ok_iff.1 h
    exact List.forall₂_map_left_iff.1 (mapM_eq_ok_iff.1 hread)
  · intro h
    exact ⟨values, mapM_eq_ok_iff.2 (List.forall₂_map_left_iff.2 h), rfl⟩

theorem bindings_obj_iff {members : List (String × Json)} {map : Bindings α} :
    Reader.bindings read origin (.ofJson (.obj members)) = .ok map ↔
      ∃ entries, List.Forall₂ (fun member entry => member.1 = entry.1 ∧
        read origin (.ofJson member.2) = .ok entry.2) members entries ∧ .ofList entries = map := by
  rw [Draft.ofJson, Draft.ofMembers_eq_map]
  show (List.mapM _ _ >>= _) = _ ↔ _
  rw [bind_eq_ok_iff]
  refine exists_congr fun entries => ?_
  rw [mapM_eq_ok_iff, List.forall₂_map_left_iff]
  have hentry : ∀ (member : String × Json) (entry : String × α),
      (do return (member.1, ← read origin (.ofJson member.2)) : Except Fault (String × α)) =
          .ok entry ↔ member.1 = entry.1 ∧ read origin (.ofJson member.2) = .ok entry.2 := by
    intro member entry
    rw [bind_eq_ok_iff]
    constructor
    · rintro ⟨value, hvalue, h⟩
      obtain rfl := pure_eq_ok_iff.1 h
      exact ⟨rfl, hvalue⟩
    · rintro ⟨hname, hvalue⟩
      refine ⟨entry.2, hvalue, ?_⟩
      rw [hname]
      rfl
  refine and_congr ?_ ?_
  · exact ⟨fun h => h.imp fun member entry => (hentry member entry).1,
      fun h => h.imp fun member entry => (hentry member entry).2⟩
  · exact pure_eq_ok_iff

/-- What is not `null` is read as some value. -/
theorem optional_of_ne_null {json : Json} (h : json ≠ .null) :
    Reader.optional read origin (.ofJson json) = (read origin (.ofJson json)).map some := by
  cases json with
  | null => exact absurd rfl h
  | arr | obj | bool | num | str => rfl

end Reader

/-! ## Fields -/

/-- The value of a field that a list leaves out at its end. -/
def Absence.trailing? {β : Type} : Absence β → Option β
  | .anywhere value => some value
  | _ => none

/-- A field is read from what stands at its name, or filled in. -/
def Reader.Fills {β : Type} (read : Reader β) (origin : Origin) (usual : Option β) :
    Option Json → β → Prop
  | some json, value => read origin (.ofJson json) = .ok value
  | none, value => usual = some value

namespace Fields

/-- A record is made of what stands at the names of its fields. -/
def Takes (fill : {β : Type} → Absence β → Option β) (origin : Origin)
    (find : String → Option Json) : {α : Type} → Fields α → α → Prop
  | _, .make value, record => value = record
  | _, .field before name read absence, record =>
    ∃ build value, before.Takes fill origin find build ∧
      read.Fills origin (fill absence) (find name) value ∧ build value = record

/-- No known name comes twice. -/
def Once (known : List String) (members : List (String × Json)) : Prop :=
  ((members.map Prod.fst).filter (· ∈ known)).Nodup

variable {α : Type} {fields : Fields α} {record : α}
  {fill : {β : Type} → Absence β → Option β} {origin : Origin}

/-- Only what stands at the names of the fields counts. -/
theorem Takes.congr {find other : String → Option Json}
    (hagree : ∀ name ∈ fields.names, find name = other name)
    (h : fields.Takes fill origin find record) : fields.Takes fill origin other record := by
  induction fields with
  | make value => exact h
  | field before name read absence ih =>
    obtain ⟨build, value, hbuild, hvalue, rfl⟩ := h
    have hname : find name = other name :=
      hagree name (List.mem_append_right _ List.mem_cons_self)
    rw [hname] at hvalue
    have hbefore := ih (fun name hmem => hagree name (List.mem_append_left _ hmem)) hbuild
    exact ⟨build, value, hbefore, hvalue, rfl⟩

/-! ## Objects -/

theorem lookup_ofMembers (members : List (String × Json)) (name : String) :
    (Draft.ofMembers members).lookup name = (members.lookup name).map Draft.ofJson := by
  rw [Draft.ofMembers_eq_map, lookup_map_snd]

theorem ofMembers_eq_ok_iff {members : List (String × Json)} :
    fields.ofMembers origin (Draft.ofMembers members) = .ok record ↔
      fields.Takes Absence.value? origin (members.lookup ·) record := by
  induction fields with
  | make value => exact Except.ok.injEq value record ▸ Iff.rfl
  | field before name read absence ih =>
    have hname := map_snd_firstMember? name (Draft.ofMembers members)
    rw [lookup_ofMembers] at hname
    show Met.combine _ _ = _ ↔ _
    rw [combine_eq_ok_iff]
    refine exists_congr fun build => exists_congr fun value => ?_
    refine and_congr ih (and_congr_left' ?_)
    show _ ↔ read.Fills origin absence.value? (members.lookup name) value
    cases hfind : members.lookup name with
    | none =>
      rw [hfind] at hname
      rw [Option.map_eq_none_iff.1 hname]
      cases absence <;> simp [Reader.Fills, Absence.value?]
    | some json =>
      rw [hfind] at hname
      obtain ⟨⟨position, draft⟩, hfirst, rfl⟩ := Option.map_eq_some_iff.1 hname
      rw [hfirst]
      exact mapError_eq_ok_iff

/-- Members without damage hold no stray fault exactly if no known name comes twice. -/
theorem strayFault_eq_none_iff {known seen : List String} {pass : Draft → Option Fault}
    {members : List (String × Json)} (hpass : ∀ json, pass (.ofJson json) = none) (position : Nat) :
    strayFault known pass .closed seen position (Draft.ofMembers members) = none ↔
      Once known members ∧ ∀ name ∈ members.map Prod.fst, name ∈ known → name ∉ seen := by
  induction members generalizing seen position with
  | nil => simp [Draft.ofMembers, strayFault, Ending.keepFault, Once]
  | cons member members ih =>
    obtain ⟨name, json⟩ := member
    rw [Draft.ofMembers, strayFault]
    by_cases hknown : name ∈ known
    · have honce : Once known ((name, json) :: members) ↔
          name ∉ members.map Prod.fst ∧ Once known members := by
        unfold Once
        rw [List.map_cons, List.filter_cons_of_pos (by simpa using hknown), List.nodup_cons,
          List.mem_filter]
        simp [hknown]
      by_cases hseen : name ∈ seen
      · rw [if_pos hknown, if_pos hseen]
        refine iff_of_false (Option.some_ne_none _) fun h => ?_
        exact h.2 name List.mem_cons_self hknown hseen
      · rw [if_pos hknown, if_neg hseen, ih, honce]
        constructor
        · rintro ⟨hrest, hfresh⟩
          refine ⟨⟨fun hmem => hfresh name hmem hknown List.mem_cons_self, hrest⟩, ?_⟩
          intro other hother hmem
          rcases List.mem_cons.1 hother with rfl | hother
          · exact hseen
          · exact fun h => hfresh other hother hmem (List.mem_cons_of_mem _ h)
        · rintro ⟨⟨hname, hrest⟩, hfresh⟩
          refine ⟨hrest, fun other hother hmem => ?_⟩
          rw [List.mem_cons, not_or]
          exact ⟨fun heq => hname (heq ▸ hother), hfresh other (List.mem_cons_of_mem _ hother) hmem⟩
    · have honce : Once known ((name, json) :: members) ↔ Once known members := by
        unfold Once
        rw [List.map_cons, List.filter_cons_of_neg (by simpa using hknown)]
      rw [if_neg hknown, hpass json]
      show strayFault _ _ _ _ _ _ = _ ↔ _
      rw [ih, honce]
      refine and_congr_right fun _ => ?_
      constructor
      · intro hfresh other hother hmem
        rcases List.mem_cons.1 hother with rfl | hother
        · exact absurd hmem hknown
        · exact hfresh other hother hmem
      · exact fun hfresh other hother => hfresh other (List.mem_cons_of_mem _ hother)

/-- The members of an object are read if no known name comes twice and all fields are. -/
theorem readMembers_eq_ok_iff {pass : Draft → Option Fault} {members : List (String × Json)}
    (hpass : ∀ json, pass (.ofJson json) = none) :
    fields.readMembers pass origin (Draft.ofMembers members) .closed = .ok record ↔
      Once fields.names members ∧
        fields.Takes Absence.value? origin (members.lookup ·) record := by
  have hstray := @strayFault_eq_none_iff fields.names [] pass members hpass 0
  unfold readMembers metMembers
  rw [mapError_eq_ok_iff, combine_eq_ok_iff, ← ofMembers_eq_ok_iff]
  cases hfault : strayFault fields.names pass .closed [] 0 (Draft.ofMembers members) with
  | some met =>
    rw [hfault] at hstray
    have htwice : ¬ Once fields.names members := fun honce =>
      nomatch hstray.2 ⟨honce, fun _ _ _ => List.not_mem_nil⟩
    refine iff_of_false ?_ fun h => htwice h.1
    rintro ⟨_, _, hbuild, _⟩
    cases hbuild
  | none =>
    have honce := (hstray.1 hfault).1
    constructor
    · rintro ⟨build, value, hbuild, hvalue, rfl⟩
      obtain rfl := Except.ok.inj hbuild
      exact ⟨honce, hvalue⟩
    · rintro ⟨_, hvalue⟩
      exact ⟨id, record, rfl, hvalue, rfl⟩

theorem once_of_nodup {known : List String} {members : List (String × Json)}
    (h : (members.map Prod.fst).Nodup) : Once known members := h.filter _

/-! ## Lists -/

/-- The item at the place of a name. -/
theorem lookup_zip_last {names : List String} {name : String} (hfresh : name ∉ names)
    (items : List Json) : ((names ++ [name]).zip items).lookup name = items[names.length]? := by
  induction names generalizing items with
  | nil =>
    cases items with
    | nil => rfl
    | cons item items => exact List.lookup_cons_self
  | cons first names ih =>
    rw [List.mem_cons, not_or] at hfresh
    cases items with
    | nil => rfl
    | cons item items =>
      rw [List.cons_append, List.zip_cons_cons, Bindings.lookup_cons, if_neg hfresh.1, ih hfresh.2]
      rfl

theorem lookup_zip_append {names : List String} {name other : String} (hother : other ∈ names)
    (items : List Json) :
    ((names ++ [name]).zip items).lookup other = (names.zip items).lookup other := by
  induction names generalizing items with
  | nil => cases hother
  | cons first names ih =>
    cases items with
    | nil => rfl
    | cons item items =>
      rw [List.cons_append, List.zip_cons_cons, List.zip_cons_cons, Bindings.lookup_cons,
        Bindings.lookup_cons]
      by_cases h : other = first
      · rw [if_pos h, if_pos h]
      · rw [if_neg h, if_neg h, ih ((List.mem_cons.1 hother).resolve_left h)]

/-- The fields at the front of a list are read from the items in turn. -/
theorem ofItems_eq_ok_iff {expected : String} {items : List Json} {rest : List Draft} {count : Nat}
    (hnames : fields.names.Nodup) :
    fields.ofItems origin expected (Draft.ofItems items) .closed = .ok (record, rest, count) ↔
      fields.Takes Absence.trailing? origin ((fields.names.zip items).lookup ·) record ∧
        rest = Draft.ofItems (items.drop fields.names.length) ∧ count = fields.names.length := by
  induction fields generalizing rest count with
  | make value =>
    show Except.ok (value, Draft.ofItems items, 0) = .ok (record, rest, count) ↔
      value = record ∧ rest = Draft.ofItems items ∧ count = 0
    rw [Except.ok.injEq, Prod.mk.injEq, Prod.mk.injEq, eq_comm, @eq_comm _ rest, @eq_comm _ count,
      @eq_comm _ record]
  | @field α β before name read absence ih =>
    obtain ⟨hbefore, hfresh⟩ := nodup_names_iff.1 hnames
    have hlength : (field before name read absence).names.length = before.names.length + 1 := by
      rw [names, List.length_append, List.length_singleton]
    have hfront : ∀ build : β → α,
        before.Takes Absence.trailing? origin ((before.names.zip items).lookup ·) build ↔
          before.Takes Absence.trailing? origin
            (((field before name read absence).names.zip items).lookup ·) build := fun build =>
      ⟨Takes.congr fun other hother => (lookup_zip_append hother items).symm,
        Takes.congr fun other hother => lookup_zip_append hother items⟩
    have hlast : ((field before name read absence).names.zip items).lookup name =
        (items.drop before.names.length).head? := by
      rw [names, lookup_zip_last hfresh, List.head?_drop]
    have htail : items.drop (field before name read absence).names.length =
        (items.drop before.names.length).tail := by
      rw [hlength, List.tail_drop]
    rw [htail, hlength]
    show (before.ofItems origin expected (Draft.ofItems items) .closed >>= _) = _ ↔
      (∃ build value, _ ∧ read.Fills origin absence.trailing?
        (((field before name read absence).names.zip items).lookup name) value ∧ _) ∧ _
    rw [hlast, bind_eq_ok_iff]
    constructor
    · rintro ⟨⟨build, later, _⟩, hbuild, h⟩
      obtain ⟨htakes, rfl, rfl⟩ := (ih hbefore).1 hbuild
      cases hdrop : items.drop before.names.length with
      | nil =>
        rw [hdrop] at h
        obtain ⟨_, _, h⟩ := bind_eq_ok_iff.1 h
        cases absence with
        | refused | ofObjects _ => cases h
        | anywhere usual =>
          obtain ⟨rfl, rfl, rfl⟩ := pure_eq_ok_iff.1 h
          exact ⟨⟨build, usual, (hfront build).1 htakes, rfl, rfl⟩, rfl, rfl⟩
      | cons item later =>
        rw [hdrop] at h
        obtain ⟨value, hvalue, h⟩ := bind_eq_ok_iff.1 h
        obtain ⟨rfl, rfl, rfl⟩ := pure_eq_ok_iff.1 h
        exact ⟨⟨build, value, (hfront build).1 htakes, hvalue, rfl⟩, rfl, rfl⟩
    · rintro ⟨⟨build, value, htakes, hvalue, rfl⟩, rfl, rfl⟩
      refine ⟨_, (ih hbefore).2 ⟨(hfront build).2 htakes, rfl, rfl⟩, ?_⟩
      cases hdrop : items.drop before.names.length with
      | nil =>
        rw [hdrop] at hvalue
        cases absence with
        | refused | ofObjects _ => cases hvalue
        | anywhere usual =>
          obtain rfl := Option.some.inj hvalue
          rfl
      | cons item later =>
        rw [hdrop] at hvalue
        exact bind_eq_ok_iff.2 ⟨value, hvalue, rfl⟩

/-- The items of a list are read if there are no more than fields and all fields are. -/
theorem readExactly_eq_ok_iff {expected : String} {items : List Json}
    (hnames : fields.names.Nodup) :
    fields.readExactly expected origin (Draft.ofItems items) .closed = .ok record ↔
      items.length ≤ fields.names.length ∧
        fields.Takes Absence.trailing? origin ((fields.names.zip items).lookup ·) record := by
  unfold readExactly
  rw [bind_eq_ok_iff]
  constructor
  · rintro ⟨⟨value, rest, count⟩, hvalue, h⟩
    obtain ⟨htakes, rfl, rfl⟩ := (ofItems_eq_ok_iff hnames).1 hvalue
    cases hdrop : items.drop fields.names.length with
    | nil =>
      rw [hdrop] at h
      obtain ⟨_, _, h⟩ := bind_eq_ok_iff.1 h
      obtain rfl := pure_eq_ok_iff.1 h
      exact ⟨List.drop_eq_nil_iff.1 hdrop, htakes⟩
    | cons item later =>
      rw [hdrop] at h
      cases origin <;> cases h
  · rintro ⟨hlength, htakes⟩
    refine ⟨_, (ofItems_eq_ok_iff hnames).2 ⟨htakes, rfl, rfl⟩, ?_⟩
    rw [List.drop_eq_nil_of_le hlength]
    rfl

/-! ## Records -/

theorem reader_obj_iff {expected : String} {members : List (String × Json)} :
    fields.reader expected origin (.ofJson (.obj members)) = .ok record ↔
      Once fields.names members ∧
        fields.Takes Absence.value? origin (members.lookup ·) record := by
  rw [Draft.ofJson]
  exact readMembers_eq_ok_iff Draft.skipFault_ofJson

theorem reader_arr_iff {expected : String} {items : List Json} (hnames : fields.names.Nodup) :
    fields.reader expected origin (.ofJson (.arr items)) = .ok record ↔
      items.length ≤ fields.names.length ∧
        fields.Takes Absence.trailing? origin ((fields.names.zip items).lookup ·) record := by
  rw [Draft.ofJson]
  exact readExactly_eq_ok_iff hnames

theorem takes_single_iff {read : Reader α} {name : String} {members : List (String × Json)} :
    (single name read).Takes Absence.value? origin (members.lookup ·) record ↔
      ∃ json, members.lookup name = some json ∧ read origin (.ofJson json) = .ok record := by
  show (∃ build value, id = build ∧ read.Fills origin none (members.lookup name) value ∧ _) ↔ _
  constructor
  · rintro ⟨_, value, rfl, hvalue, rfl⟩
    cases hfind : members.lookup name with
    | none =>
      rw [hfind] at hvalue
      cases hvalue
    | some json =>
      rw [hfind] at hvalue
      exact ⟨json, rfl, hvalue⟩
  · rintro ⟨json, hfind, hread⟩
    rw [hfind]
    exact ⟨id, record, rfl, hread, rfl⟩

/-- One member among others. -/
theorem readMembers_single_iff {pass : Draft → Option Fault} {read : Reader α} {name : String}
    {members : List (String × Json)} (hpass : ∀ json, pass (.ofJson json) = none) :
    (single name read).readMembers pass origin (Draft.ofMembers members) .closed = .ok record ↔
      Once [name] members ∧
        ∃ json, members.lookup name = some json ∧ read origin (.ofJson json) = .ok record := by
  rw [readMembers_eq_ok_iff hpass, takes_single_iff]
  rfl

end Fields

/-! ## Tagged unions -/

namespace Body

variable {α : Type}

/-- The names of the fields of a body. -/
def names : Body α → List String
  | .unit _ => []
  | .record _ fields => fields.names

/-- A value is made of the members that are set aside. -/
def TakesMembers (members : List (String × Json)) (value : α) : Body α → Prop
  | .unit own => own = value
  | .record _ fields =>
    Fields.Once fields.names members ∧
      fields.Takes Absence.value? .buffer (members.lookup ·) value

/-- A value is made of the items that are set aside. -/
def TakesItems (items : List Json) (value : α) : Body α → Prop
  | .unit own => items = [] ∧ own = value
  | .record _ fields =>
    items.length ≤ fields.names.length ∧
      fields.Takes Absence.trailing? .buffer ((fields.names.zip items).lookup ·) value

end Body

namespace Union

variable {α : Type} {union : Union α} {origin : Origin} {value : α}

/-- A body is that of a variant, or the fallback. -/
theorem body_cases {choice : Option Nat} {body : Body α} (h : union.body choice = some body) :
    (∃ tag, (tag, body) ∈ union.variants) ∨
      ∃ value, union.fallback = some value ∧ body = .unit value := by
  unfold Union.body at h
  split at h
  · next variant hvariant =>
    obtain ⟨place, _, hplace⟩ := Option.bind_eq_some_iff.1 hvariant
    obtain rfl := Option.some.inj h
    exact Or.inl ⟨variant.1, List.mem_of_getElem? hplace⟩
  · obtain ⟨value, hfallback, rfl⟩ := Option.map_eq_some_iff.1 h
    exact Or.inr ⟨value, hfallback, rfl⟩

/-- The members besides one, as drafts. -/
theorem filter_ofMembers (members : List (String × Json)) (name : String) :
    (Draft.ofMembers members).filter (·.1 ≠ name) =
      Draft.ofMembers (members.filter (·.1 ≠ name)) := by
  rw [Draft.ofMembers_eq_map, Draft.ofMembers_eq_map, List.filter_map]
  rfl

theorem ofMembers_eq_ok_iff {choice : Option Nat} {members : List (String × Json)} :
    union.ofMembers choice (Draft.ofMembers members) = .ok value ↔
      ∃ body, union.body choice = some body ∧ body.TakesMembers members value := by
  unfold ofMembers
  cases hbody : union.body choice with
  | none => simp
  | some body =>
    simp only [Option.some.injEq, exists_eq_left']
    cases body with
    | unit own => exact Except.ok.injEq own value ▸ Iff.rfl
    | record expected fields => exact Fields.readMembers_eq_ok_iff Draft.skipFault_ofJson

theorem ofItems_eq_ok_iff {choice : Option Nat} {items : List Json}
    (hnames : ∀ body, union.body choice = some body → body.names.Nodup) :
    union.ofItems choice (Draft.ofItems items) = .ok value ↔
      ∃ body, union.body choice = some body ∧ body.TakesItems items value := by
  unfold ofItems
  cases hbody : union.body choice with
  | none => simp
  | some body =>
    simp only [Option.some.injEq, exists_eq_left']
    cases body with
    | unit own =>
      cases items with
      | nil =>
        show Except.ok own = .ok value ↔ [] = [] ∧ own = value
        rw [Except.ok.injEq, and_iff_right rfl]
      | cons item items => exact iff_of_false nofun fun h => nomatch h.1
    | record expected fields => exact Fields.readExactly_eq_ok_iff (hnames _ hbody)

/-- A tagged value is read from an object by its tag, and then from the other members. -/
theorem reader_obj_iff {members : List (String × Json)} :
    union.reader origin (.ofJson (.obj members)) = .ok value ↔
      Fields.Once [union.tag] members ∧
        ∃ choice, (∃ json, members.lookup union.tag = some json ∧
          union.choose origin (.ofJson json) = .ok choice) ∧
          ∃ body, union.body choice = some body ∧
            body.TakesMembers (members.filter (·.1 ≠ union.tag)) value := by
  rw [Draft.ofJson]
  show (union.tagField.readMembers _ _ _ _ >>= _) = _ ↔ _
  rw [bind_eq_ok_iff]
  unfold tagField
  simp only [Fields.readMembers_single_iff Draft.keepFault_ofJson, filter_ofMembers,
    ofMembers_eq_ok_iff]
  constructor
  · rintro ⟨choice, ⟨honce, hchoose⟩, hbody⟩
    exact ⟨honce, choice, hchoose, hbody⟩
  · rintro ⟨honce, choice, hchoose, hbody⟩
    exact ⟨choice, ⟨honce, hchoose⟩, hbody⟩

/-- A tagged value is read from a list by its first item, and then from the others. -/
theorem reader_arr_iff {first : Json} {items : List Json}
    (hnames : ∀ choice body, union.body choice = some body → body.names.Nodup) :
    union.reader origin (.ofJson (.arr (first :: items))) = .ok value ↔
      ∃ choice, union.choose origin (.ofJson first) = .ok choice ∧
        ∃ body, union.body choice = some body ∧ body.TakesItems items value := by
  rw [Draft.ofJson, Draft.ofItems]
  show (union.choose origin _ >>= _) = _ ↔ _
  rw [bind_eq_ok_iff]
  refine exists_congr fun choice => and_congr_right' ?_
  rw [Draft.keepFaultItems_ofItems]
  exact ofItems_eq_ok_iff (hnames choice)

end Union

/-! ## Components -/

namespace Component

variable {origin : Origin} {component : Component}

theorem exists_parts_iff {first : String → Prop} {second : Kind → Prop} :
    (∃ id, first id ∧ ∃ kind, second kind ∧ mk id kind = component) ↔
      first component.id ∧ second component.kind := by
  constructor
  · rintro ⟨id, hid, kind, hkind, rfl⟩
    exact ⟨hid, hkind⟩
  · rintro ⟨hid, hkind⟩
    exact ⟨component.id, hid, component.kind, hkind, rfl⟩

/-- A component is read by its id, and its kind from the other members. -/
theorem reader_obj_iff {members : List (String × Json)} :
    reader origin (.ofJson (.obj members)) = .ok component ↔
      (Fields.Once ["id"] members ∧ ∃ json, members.lookup "id" = some json ∧
        Reader.text origin (.ofJson json) = .ok component.id) ∧
      Kind.union.reader .buffer (.ofJson (.obj (members.filter (·.1 ≠ "id")))) =
        .ok component.kind := by
  rw [Draft.ofJson]
  show ((Fields.single "id" .text).readMembers _ _ _ _ >>= _) = _ ↔ _
  rw [bind_eq_ok_iff]
  simp only [Fields.readMembers_single_iff Draft.keepFault_ofJson, Union.filter_ofMembers,
    bind_eq_ok_iff, pure_eq_ok_iff]
  exact exists_parts_iff

end Component

end ScreenFlow
