import ScreenFlow.Proofs.Codec.Reading
import ScreenFlow.Reader.Name

/-!
# Revised values

A document for a later version holds members that are not known yet, and calls things by names that
are not. A revision says what may be written in place of a value, and what is then to be read in
place of what was read before. It is sound for a reader if the reader reads just that, and the same
as before if all that is new is a member (`Revision.Sound`).

1. A record only looks at the names of its fields, so a member of another name may be inserted. What
   is read at one name can be made anew while all else stays (`Fields.Slot`).
2. A place of a record (`Place`) is a field with a revision of what stands there. A record is
   revised by a member that is inserted or at one of its places, as an object or as a list
   (`Revision.Record`). Lists and optional values are revised where their contents are.
3. A tagged value reads its tag first and then a record. A tag that is not known leads to the
   fallback, whatever the other members are.
-/

namespace ScreenFlow

/-- What is new in a document for a later version. -/
inductive Novelty
  | member
  | name

/-- What is written in place of a value, and what is read then in place of what was read before. -/
abbrev Revision (α : Type) := Novelty → Json → α → Json → α → Prop

/-- What is revised is read as the revision says, and what has one more member as before. -/
structure Revision.Sound {α : Type} (revises : Revision α) (read : Reader α) : Prop where
  reads : ∀ {novelty old value new result}, revises novelty old value new result → ∀ origin,
    read origin (.ofJson old) = .ok value → read origin (.ofJson new) = .ok result
  keeps : ∀ {old value new result}, revises .member old value new result → result = value

/-! ## Members -/

section Members

variable {before after : List (String × Json)} {name other : String} {json : Json}

/-- Only the look-up of its own name meets a member. -/
theorem lookup_middle_of_ne (h : other ≠ name) :
    (before ++ (name, json) :: after).lookup other = (before ++ after).lookup other := by
  rw [List.lookup_append, List.lookup_append, Bindings.lookup_cons, if_neg h]

theorem lookup_middle (h : name ∉ before.map Prod.fst) :
    (before ++ (name, json) :: after).lookup name = some json := by
  refine List.lookup_eq_some_iff.2 ⟨before, after, rfl, fun member hmember => ?_⟩
  rw [bne_iff_ne]
  rintro rfl
  exact h (List.mem_map_of_mem hmember)

theorem filter_middle {key : String} (h : name ≠ key) :
    (before ++ (name, json) :: after).filter (·.1 ≠ key) =
      before.filter (·.1 ≠ key) ++ (name, json) :: after.filter (·.1 ≠ key) := by
  rw [List.filter_append, List.filter_cons_of_pos (by simpa using h)]

namespace Fields

variable {known : List String}

theorem once_insert (h : name ∉ known) :
    Once known (before ++ (name, json) :: after) ↔ Once known (before ++ after) := by
  unfold Once
  rw [List.map_append, List.map_cons, List.filter_append,
    List.filter_cons_of_neg (by simpa using h), ← List.filter_append, ← List.map_append]

theorem once_replace (new : Json) (h : Once known (before ++ (name, json) :: after)) :
    Once known (before ++ (name, new) :: after) := by
  unfold Once at h ⊢
  rw [List.map_append, List.map_cons] at h ⊢
  exact h

/-- The one member of a known name is the first one. -/
theorem Once.notMem_before (h : Once known (before ++ (name, json) :: after))
    (hname : name ∈ known) : name ∉ before.map Prod.fst := by
  unfold Once at h
  rw [List.map_append, List.map_cons, List.filter_append,
    List.filter_cons_of_pos (by simpa using hname), List.nodup_middle, List.nodup_cons] at h
  intro hmem
  refine h.1 (List.mem_append_left _ (List.mem_filter.2 ⟨hmem, ?_⟩))
  simpa using hname

/-- An item at the place of a name stands among the others as a member does among members. -/
theorem exists_zip_middle {names : List String} {before : List Json}
    (hname : names[before.length]? = some name) (hnames : names.Nodup) (after : List Json) :
    ∃ first last : List (String × Json), name ∉ first.map Prod.fst ∧
      ∀ item, names.zip (before ++ item :: after) = first ++ (name, item) :: last := by
  obtain ⟨hplace, rfl⟩ := List.getElem?_eq_some_iff.1 hname
  have hsplit : names = names.take before.length ++
      names[before.length] :: names.drop (before.length + 1) := by
    rw [List.getElem_cons_drop, List.take_append_drop]
  have hlength : (names.take before.length).length = before.length := by
    rw [List.length_take]
    omega
  refine ⟨(names.take before.length).zip before, (names.drop (before.length + 1)).zip after, ?_, ?_⟩
  · rw [List.map_fst_zip (Nat.le_of_eq hlength)]
    rw [hsplit, List.nodup_middle, List.nodup_cons] at hnames
    exact fun hmem => hnames.1 (List.mem_append_left _ hmem)
  · intro item
    conv_lhs => rw [hsplit]
    rw [List.zip_append hlength, List.zip_cons_cons]

end Fields

end Members

/-! ## Slots of a record -/

namespace Fields

variable {α β : Type} {fields : Fields α}

theorem Makes.of_takes {fill : {β : Type} → Absence β → Option β} {origin : Origin}
    {find : String → Option Json} {holds : α → Prop} {record : α} (h : fields.Makes holds)
    (htakes : fields.Takes fill origin find record) : holds record := by
  induction fields with
  | make value =>
    obtain rfl : value = record := htakes
    exact h
  | field before name read absence ih =>
    obtain ⟨build, value, hbuild, _, rfl⟩ := htakes
    exact ih h hbuild value

/-- One of the fields is read by `read` at `name`. What is read there, the record and the way to
make the record of another value there satisfy `holds`. -/
inductive Slot (read : Reader β) (name : String) :
    {α : Type} → Fields α → (β → α → (β → α) → Prop) → Prop
  | last {α : Type} {before : Fields (β → α)} {absence : Absence β}
      {holds : β → α → (β → α) → Prop}
      (h : before.Makes fun build => ∀ value, holds value (build value) build) :
      Slot read name (.field before name read absence) holds
  | earlier {α γ : Type} {before : Fields (γ → α)} {other : String} {next : Reader γ}
      {absence : Absence γ} {holds : β → α → (β → α) → Prop}
      (h : Slot read name before fun value build remake =>
        ∀ x, holds value (build x) fun new => remake new x) :
      Slot read name (.field before other next absence) holds

variable {read : Reader β} {name : String} {holds : β → α → (β → α) → Prop}

theorem Slot.mem_names (h : fields.Slot read name holds) : name ∈ fields.names := by
  induction h with
  | last => exact List.mem_append_right _ List.mem_cons_self
  | earlier _ ih => exact List.mem_append_left _ ih

/-- What stands at the name of a slot is read there, and with something else at that name the record
is made of that. -/
theorem Slot.exists_remake {fill : {β : Type} → Absence β → Option β} {origin : Origin}
    {find : String → Option Json} {record : α} (h : fields.Slot read name holds)
    (hnames : fields.names.Nodup) (htakes : fields.Takes fill origin find record) :
    ∃ value remake usual, holds value record remake ∧ read.Fills origin usual (find name) value ∧
      ∀ (form : String → Option Json) (new : β), (∀ other, other ≠ name → form other = find other) →
        read.Fills origin usual (form name) new → fields.Takes fill origin form (remake new) := by
  induction h with
  | @last _ _ absence _ hmakes =>
    obtain ⟨build, value, hbuild, hvalue, rfl⟩ := htakes
    have hfresh := (nodup_names_iff.1 hnames).2
    refine ⟨value, build, fill absence, hmakes.of_takes hbuild value, hvalue, ?_⟩
    intro form new hother hnew
    have hbefore := hbuild.congr fun other hmem =>
      (hother other (ne_of_mem_of_not_mem hmem hfresh)).symm
    exact ⟨build, new, hbefore, hnew, rfl⟩
  | earlier hslot ih =>
    obtain ⟨build, value, hbuild, hvalue, rfl⟩ := htakes
    obtain ⟨hbefore, hfresh⟩ := nodup_names_iff.1 hnames
    obtain ⟨part, remake, usual, hholds, hpart, hnext⟩ := ih hbefore hbuild
    refine ⟨part, fun new => remake new value, usual, hholds value, hpart, ?_⟩
    intro form new hother hnew
    refine ⟨remake new, value, hnext form new hother hnew, ?_, rfl⟩
    rw [hother _ (ne_of_mem_of_not_mem hslot.mem_names hfresh).symm]
    exact hvalue

end Fields

/-! ## Places -/

/-- A field of a record, and how what stands there is revised. -/
structure Place (α : Type) : Type 1 where
  name : String
  {Part : Type}
  get : α → Part
  set : α → Part → α
  set_get : ∀ record, set record (get record) = record
  Revises : Revision Part

namespace Place

variable {α : Type}

/-- The place is one of the fields, and its revision is sound for what reads it. -/
def Fits (place : Place α) (fields : Fields α) : Prop :=
  ∃ read : Reader place.Part, place.Revises.Sound read ∧
    fields.Slot read place.name fun part record remake =>
      place.get record = part ∧ remake = place.set record

/-- A record is revised at one of several places; this is what stands at its name. -/
inductive Revised (places : List (Place α)) : String → Revision α
  | part {place : Place α} {novelty : Novelty} {old new : Json} {record : α} {part : place.Part}
      (hmem : place ∈ places) (h : place.Revises novelty old (place.get record) new part) :
      Revised places place.name novelty old record new (place.set record part)

variable {fields : Fields α} {places : List (Place α)} {name : String} {novelty : Novelty}
  {old new : Json} {record result : α}

theorem Revised.mem_names (h : Revised places name novelty old record new result)
    (hfits : ∀ place ∈ places, place.Fits fields) : name ∈ fields.names := by
  cases h with
  | part hmem =>
    obtain ⟨_, _, hslot⟩ := hfits _ hmem
    exact hslot.mem_names

theorem Revised.keeps (h : Revised places name .member old record new result)
    (hfits : ∀ place ∈ places, place.Fits fields) : result = record := by
  cases h with
  | @part place _ _ _ _ part hmem hrevises =>
    obtain ⟨_, hsound, _⟩ := hfits _ hmem
    rw [hsound.keeps hrevises, place.set_get]

theorem Revised.takes {fill : {β : Type} → Absence β → Option β} {origin : Origin}
    {find form : String → Option Json} (h : Revised places name novelty old record new result)
    (hfits : ∀ place ∈ places, place.Fits fields) (hnames : fields.names.Nodup)
    (htakes : fields.Takes fill origin find record) (hold : find name = some old)
    (hnew : form name = some new) (hother : ∀ other, other ≠ name → form other = find other) :
    fields.Takes fill origin form result := by
  cases h with
  | @part place _ _ _ _ part hmem hrevises =>
    obtain ⟨read, hsound, hslot⟩ := hfits _ hmem
    obtain ⟨value, remake, usual, ⟨rfl, rfl⟩, hvalue, hremake⟩ := hslot.exists_remake hnames htakes
    rw [hold] at hvalue
    refine hremake form part hother ?_
    rw [hnew]
    exact hsound.reads hrevises origin hvalue

end Place

/-! ## Records -/

section Members

variable {α : Type} {fields : Fields α} {origin : Origin} {record result : α}
  {before after : List (String × Json)} {name : String} {novelty : Novelty} {old new : Json}

/-- A member of a name that no field has is not looked at. -/
theorem Fields.takes_insert (hname : name ∉ fields.names)
    (h : Once fields.names (before ++ after) ∧
      fields.Takes Absence.value? origin ((before ++ after).lookup ·) record) :
    Once fields.names (before ++ (name, new) :: after) ∧
      fields.Takes Absence.value? origin ((before ++ (name, new) :: after).lookup ·) record := by
  refine ⟨(once_insert hname).2 h.1, h.2.congr fun other hother => ?_⟩
  exact (lookup_middle_of_ne (ne_of_mem_of_not_mem hother hname)).symm

/-- The member at a place makes a difference as the place says. -/
theorem Place.Revised.takes_member {places : List (Place α)}
    (hrevised : Revised places name novelty old record new result)
    (hfits : ∀ place ∈ places, place.Fits fields) (hnames : fields.names.Nodup)
    (h : Fields.Once fields.names (before ++ (name, old) :: after) ∧
      fields.Takes Absence.value? origin ((before ++ (name, old) :: after).lookup ·) record) :
    Fields.Once fields.names (before ++ (name, new) :: after) ∧
      fields.Takes Absence.value? origin ((before ++ (name, new) :: after).lookup ·) result := by
  have hbefore := h.1.notMem_before (hrevised.mem_names hfits)
  refine ⟨Fields.once_replace new h.1, ?_⟩
  refine hrevised.takes hfits hnames h.2 (lookup_middle hbefore) (lookup_middle hbefore) ?_
  intro other hother
  rw [lookup_middle_of_ne hother, lookup_middle_of_ne hother]

end Members

namespace Revision

variable {α : Type}

/-- A record is revised by a member of a name that it does not know, or at one of its places: as an
object by name, as a list by position. -/
inductive Record (names : List String) (places : List (Place α)) : Revision α
  | insert (before after : List (String × Json)) {name : String} (value : Json) (whole : α)
      (h : name ∉ names) :
      Record names places .member (.obj (before ++ after)) whole
        (.obj (before ++ (name, value) :: after)) whole
  | member (before after : List (String × Json)) {name : String} {novelty : Novelty}
      {old new : Json} {whole result : α}
      (h : Place.Revised places name novelty old whole new result) :
      Record names places novelty (.obj (before ++ (name, old) :: after)) whole
        (.obj (before ++ (name, new) :: after)) result
  | item (before after : List Json) {name : String} {novelty : Novelty} {old new : Json}
      {whole result : α} (hname : names[before.length]? = some name)
      (h : Place.Revised places name novelty old whole new result) :
      Record names places novelty (.arr (before ++ old :: after)) whole
        (.arr (before ++ new :: after)) result

theorem reads_record {fields : Fields α} {places : List (Place α)} {expected : String}
    {novelty : Novelty} {origin : Origin} {old new : Json} {whole result : α}
    (hnames : fields.names.Nodup) (hfits : ∀ place ∈ places, place.Fits fields)
    (hrevises : Record fields.names places novelty old whole new result)
    (hread : fields.reader expected origin (.ofJson old) = .ok whole) :
    fields.reader expected origin (.ofJson new) = .ok result := by
  cases hrevises with
  | insert before after value _ hname =>
    rw [Fields.reader_obj_iff] at hread ⊢
    exact Fields.takes_insert hname hread
  | member before after hrevised =>
    rw [Fields.reader_obj_iff] at hread ⊢
    exact hrevised.takes_member hfits hnames hread
  | item before after hname hrevised =>
    rw [Fields.reader_arr_iff hnames] at hread ⊢
    obtain ⟨hlength, htakes⟩ := hread
    refine ⟨by simpa using hlength, ?_⟩
    obtain ⟨first, last, hfirst, hzip⟩ := Fields.exists_zip_middle hname hnames after
    simp only [hzip] at htakes ⊢
    refine hrevised.takes hfits hnames htakes (lookup_middle hfirst) (lookup_middle hfirst) ?_
    intro other hother
    rw [lookup_middle_of_ne hother, lookup_middle_of_ne hother]

theorem sound_record {fields : Fields α} {places : List (Place α)} (expected : String)
    (hnames : fields.names.Nodup) (hfits : ∀ place ∈ places, place.Fits fields) :
    (Record fields.names places).Sound (fields.reader expected) := by
  refine ⟨fun hrevises origin hread => ?_, fun hrevises => ?_⟩
  · exact reads_record hnames hfits hrevises hread
  · cases hrevises with
    | insert => rfl
    | member _ _ hrevised => exact hrevised.keeps hfits
    | item _ _ _ hrevised => exact hrevised.keeps hfits

/-! ## Where records stand -/

/-- One item of a list is revised. -/
inductive OfList (revises : Revision α) : Revision (List α)
  | item (before after : List Json) {novelty : Novelty} {old new : Json} (first last : List α)
      {value result : α} (hplace : before.length = first.length)
      (h : revises novelty old value new result) :
      OfList revises novelty (.arr (before ++ old :: after)) (first ++ value :: last)
        (.arr (before ++ new :: after)) (first ++ result :: last)

/-- What may be left out is revised where it is not. -/
inductive OfOption (revises : Revision α) : Revision (Option α)
  | some {novelty : Novelty} {old new : Json} {value result : α}
      (h : revises novelty old value new result) :
      OfOption revises novelty old (some value) new (some result)

/-- A name that is not known is written in place of a name. -/
inductive Renamed (known : List String) (other : (name : String) → name ∉ known → α) : Revision α
  | name (text : String) (value : α) {name : String} (unknown : name ∉ known) :
      Renamed known other .name (.str text) value (.str name) (other name unknown)

variable {revises : Revision α} {read : Reader α}

theorem forall₂_replace {β γ : Type} {related : β → γ → Prop} {before after : List β} {old new : β}
    {first last : List γ} {value result : γ} (hplace : before.length = first.length)
    (h : related old value → related new result)
    (hall : List.Forall₂ related (before ++ old :: after) (first ++ value :: last)) :
    List.Forall₂ related (before ++ new :: after) (first ++ result :: last) := by
  induction before generalizing first with
  | nil =>
    obtain rfl := List.length_eq_zero_iff.1 hplace.symm
    obtain ⟨hvalue, hlast⟩ := List.forall₂_cons.1 hall
    exact .cons (h hvalue) hlast
  | cons item before ih =>
    cases first with
    | nil => cases hplace
    | cons entry first =>
      obtain ⟨hentry, hrest⟩ := List.forall₂_cons.1 hall
      exact .cons hentry (ih (Nat.succ.inj hplace) hrest)

theorem Sound.ofList (h : revises.Sound read) : (OfList revises).Sound (.list read) where
  reads := by
    intro novelty old values new results hrevises origin hread
    cases hrevises with
    | item before after first last hplace hitem =>
      rw [Reader.list_arr_iff] at hread ⊢
      exact forall₂_replace hplace (h.reads hitem origin) hread
  keeps := by
    intro old values new results hrevises
    cases hrevises with
    | item before after first last _ hitem => rw [h.keeps hitem]

theorem Sound.ofOption (h : revises.Sound read)
    (hnull : ∀ origin value, read origin (.ofJson .null) ≠ .ok value) :
    (OfOption revises).Sound (.optional read) where
  reads := by
    intro novelty old values new results hrevises origin hread
    cases hrevises with
    | some hvalue =>
      have hold : old ≠ .null := by
        rintro rfl
        cases hread
      rw [Reader.optional_of_ne_null hold] at hread
      obtain ⟨value, hvalueread, hsome⟩ := map_eq_ok_iff.1 hread
      obtain rfl := Option.some.inj hsome
      have hresult := h.reads hvalue origin hvalueread
      have hnew : new ≠ .null := by
        rintro rfl
        exact hnull origin _ hresult
      rw [Reader.optional_of_ne_null hnew, hresult]
      rfl
  keeps := by
    intro old values new results hrevises
    cases hrevises with
    | some hvalue => rw [h.keeps hvalue]

theorem Sound.renamed {known : List String} {other : (name : String) → name ∉ known → α}
    {ofName : String → α} (type : String) (h : ∀ name unknown, ofName name = other name unknown) :
    (Renamed known other).Sound (.openName type known ofName) where
  reads := by
    intro novelty old value new result hrevises origin _
    cases hrevises with
    | @name _ _ name unknown =>
      show Except.ok (ofName name) = _
      rw [h name unknown]
  keeps := nofun

end Revision

/-! ## Tagged unions -/

namespace Fields

variable {α β : Type}

theorem names_map (fields : Fields α) (f : α → β) : (fields.map f).names = fields.names := by
  induction fields generalizing β with
  | make value => rfl
  | field before name read absence ih =>
    show (before.map (f ∘ ·)).names ++ [name] = _
    rw [ih]
    rfl

theorem takes_map_iff {fill : {β : Type} → Absence β → Option β} {origin : Origin}
    {find : String → Option Json} {fields : Fields α} {f : α → β} {record : β} :
    (fields.map f).Takes fill origin find record ↔
      ∃ part, fields.Takes fill origin find part ∧ f part = record := by
  induction fields generalizing β with
  | make value =>
    show f value = record ↔ ∃ part, value = part ∧ f part = record
    rw [exists_eq_left']
  | field before name read absence ih =>
    show (∃ build value, (before.map (f ∘ ·)).Takes fill origin find build ∧ _ ∧ _) ↔ _
    constructor
    · rintro ⟨_, value, hbuild, hvalue, rfl⟩
      obtain ⟨build, hbefore, rfl⟩ := ih.1 hbuild
      exact ⟨build value, ⟨build, value, hbefore, hvalue, rfl⟩, rfl⟩
    · rintro ⟨_, ⟨build, value, hbefore, hvalue, rfl⟩, rfl⟩
      exact ⟨f ∘ build, value, ih.2 ⟨build, hbefore, rfl⟩, hvalue, rfl⟩

end Fields

/-- Whatever a body holds, what is made of it has a property. -/
def Body.Makes {α : Type} (holds : α → Prop) : Body α → Prop
  | .unit value => holds value
  | .record _ fields => fields.Makes holds

theorem Body.Makes.of_takes {α : Type} {body : Body α} {holds : α → Prop}
    {members : List (String × Json)} {value : α} (h : body.Makes holds)
    (htakes : body.TakesMembers members value) : holds value := by
  cases body with
  | unit own =>
    obtain rfl : own = value := htakes
    exact h
  | record => exact Fields.Makes.of_takes h htakes.2

namespace Union

variable {α : Type} {union : Union α} {origin : Origin} {value : α}
  {before after : List (String × Json)} {name : String} {novelty : Novelty} {old new : Json}

/-- What a variant makes has its tag, and its names. -/
def Tells (union : Union α) (tagOf : α → String) (names : α → List String) : Prop :=
  ∀ variant ∈ union.variants,
    variant.2.Makes fun value => tagOf value = variant.1 ∧ names value = variant.2.names

variable {tagOf : α → String} {names : α → List String}

/-- A member that neither the tag nor the variant knows is not looked at. -/
theorem reader_insert (htells : union.Tells tagOf names) (htag : name ≠ union.tag)
    (hname : name ∉ names value)
    (hread : union.reader origin (.ofJson (.obj (before ++ after))) = .ok value) :
    union.reader origin (.ofJson (.obj (before ++ (name, new) :: after))) = .ok value := by
  rw [reader_obj_iff] at hread ⊢
  obtain ⟨honce, choice, hchoose, body, hbody, htakes⟩ := hread
  have hfresh : name ∉ body.names := by
    rcases body_cases hbody with ⟨tag, hmem⟩ | ⟨_, _, rfl⟩
    · rw [← ((htells _ hmem).of_takes htakes).2]
      exact hname
    · exact List.not_mem_nil
  refine ⟨(Fields.once_insert (by simpa using htag)).2 honce, choice, ?_, body, hbody, ?_⟩
  · rw [lookup_middle_of_ne htag.symm]
    exact hchoose
  · rw [filter_middle htag]
    rw [List.filter_append] at htakes
    cases body with
    | unit => exact htakes
    | record => exact Fields.takes_insert hfresh htakes

/-- A tag that is not known leads to the fallback. -/
theorem reader_retag {fallback : α} (hfallback : union.fallback = some fallback)
    (hname : name ∉ union.variants.map Prod.fst)
    (hread : union.reader origin (.ofJson (.obj (before ++ (union.tag, old) :: after))) =
      .ok value) :
    union.reader origin (.ofJson (.obj (before ++ (union.tag, .str name) :: after))) =
      .ok fallback := by
  rw [reader_obj_iff] at hread ⊢
  have honce := Fields.once_replace (.str name) hread.1
  have hmeaning : union.meaning? name = some (.unit fallback) := by
    have hlookup : union.variants.lookup name = none := by
      refine List.lookup_eq_none_iff.2 fun variant hmem => ?_
      rw [bne_iff_ne]
      rintro rfl
      exact hname (List.mem_map_of_mem hmem)
    rw [meaning?, hlookup, hfallback]
    rfl
  obtain ⟨choice, hchoose, hbody⟩ := choose_of_meaning? hmeaning
  have hbefore := honce.notMem_before (List.mem_singleton_self union.tag)
  exact ⟨honce, choice, ⟨_, lookup_middle hbefore, hchoose origin⟩, _, hbody, rfl⟩

/-- What has the tag of a variant is made of the body of that variant. -/
theorem body_eq_of_tag {choice : Option Nat} {body own : Body α} {variant : String}
    {members : List (String × Json)} (htells : union.Tells tagOf names)
    (hdistinct : (union.variants.map Prod.fst).Nodup) (hvariant : (variant, own) ∈ union.variants)
    (hfallback : ∀ value, union.fallback = some value → tagOf value ≠ variant)
    (hbody : union.body choice = some body) (htakes : body.TakesMembers members value)
    (hvalue : tagOf value = variant) : body = own := by
  rcases body_cases hbody with ⟨tag, hmem⟩ | ⟨fallback, hown, rfl⟩
  · have hsame : tag = variant := ((htells _ hmem).of_takes htakes).1.symm.trans hvalue
    exact (Prod.mk.inj (List.inj_on_of_nodup_map hdistinct hmem hvariant hsame)).2
  · obtain rfl : fallback = value := htakes
    exact absurd hvalue (hfallback _ hown)

/-- The record of one variant is revised at one of its places. -/
theorem reader_part {β : Type} {make : β → α} {fields : Fields β} {places : List (Place β)}
    {part result : β} {variant expected : String} (htells : union.Tells tagOf names)
    (hvariant : (variant, .record expected (fields.map make)) ∈ union.variants)
    (hmake : Function.Injective make) (htagOf : tagOf (make part) = variant)
    (hdistinct : (union.variants.map Prod.fst).Nodup)
    (hfallback : ∀ value, union.fallback = some value → tagOf value ≠ variant)
    (hfits : ∀ place ∈ places, place.Fits fields) (hnames : fields.names.Nodup)
    (htag : union.tag ∉ fields.names)
    (hrevised : Place.Revised places name novelty old part new result)
    (hread : union.reader origin (.ofJson (.obj (before ++ (name, old) :: after))) =
      .ok (make part)) :
    union.reader origin (.ofJson (.obj (before ++ (name, new) :: after))) = .ok (make result) := by
  have hne : name ≠ union.tag := ne_of_mem_of_not_mem (hrevised.mem_names hfits) htag
  rw [reader_obj_iff] at hread ⊢
  obtain ⟨honce, choice, hchoose, body, hbody, htakes⟩ := hread
  rw [lookup_middle_of_ne hne.symm] at hchoose
  rw [filter_middle hne] at htakes
  refine ⟨Fields.once_replace new honce, choice, ?_, body, hbody, ?_⟩
  · rw [lookup_middle_of_ne hne.symm]
    exact hchoose
  · rw [filter_middle hne]
    obtain rfl := body_eq_of_tag htells hdistinct hvariant hfallback hbody htakes htagOf
    obtain ⟨hknown, htakes⟩ := htakes
    obtain ⟨_, hpart, hsame⟩ := Fields.takes_map_iff.1 htakes
    obtain rfl := hmake hsame
    rw [Fields.names_map] at hknown
    have hresult := hrevised.takes_member hfits hnames ⟨hknown, hpart⟩
    refine ⟨?_, Fields.takes_map_iff.2 ⟨result, hresult.2, rfl⟩⟩
    rw [Fields.names_map]
    exact hresult.1

end Union

end ScreenFlow
