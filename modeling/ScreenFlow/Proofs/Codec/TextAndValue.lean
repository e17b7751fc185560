import Mathlib.Data.Option.Basic
import ScreenFlow.Proofs.Codec.Agreement
import ScreenFlow.Reader.Whole
import ScreenFlow.Session

/-!
# Texts and the values in them

A document may be read from a text, where its members stand as they are written, or from the value in
the text, where they are in key order and the last one of a name stays. Every reader of the format
agrees on the two (`Reader.Alike`): they never come to different results, and if no object repeats a
name neither comes to one without the other.

The readers are gone through by type, from the smallest parts of a document to a snapshot. Scopes and
components are no plain records. A scope may stand before or after its contents, and a component is
taken apart twice, for its id and for its kind.
-/

namespace ScreenFlow

open Fields (Agree)

/-! ## Layouts -/

theorem Layout.agrees : reader.Agrees := by
  refine Agree.reader ?_ (by decide) "struct Layout"
  exact Agree.make Layout.mk
    |>.field (.openName "Orientation" ["vertical", "horizontal"] Orientation.ofName)
    |>.optional .text
    |>.optional .text
    |>.optional .text
    |>.optional .text

/-! ## Contents of components -/

theorem Image.agree : fields.Agree :=
  Agree.make Image.mk |>.optional .text |>.optional .text |>.optional .text

theorem Validations.agrees : reader.Agrees := by
  refine Agree.reader ?_ (by decide) "struct Validations"
  exact Agree.make Validations.mk |>.optional .word64

theorem TextField.agree : fields.Agree :=
  Agree.make TextField.mk
    |>.optional .text
    |>.optional .text
    |>.optional .text
    |>.field (.openName "DataType" ["email", "password", "string"] DataType.ofName)
    |>.field .flag
    |>.field Validations.agrees

theorem TextField.agrees : reader.Agrees := agree.reader (by decide) "struct TextFieldSpec"

theorem Button.agree : fields.Agree :=
  Agree.make Button.mk |>.field .text |>.optional .text |>.optional .text |>.optional .text

theorem Caption.agree : fields.Agree :=
  Agree.make Caption.mk |>.field .text |>.optional .text |>.optional .text

theorem Spacer.agree : fields.Agree := Agree.make Spacer.mk |>.optional .word32

theorem Column.agrees : reader.Agrees := by
  refine Agree.reader ?_ (by decide) "struct TableColumn"
  exact Agree.make Column.mk |>.field .text |>.field .text

theorem Table.agree : fields.Agree :=
  Agree.make Table.mk
    |>.field Column.agrees.list
    |>.field (Reader.Agrees.list (.bindings .freeForm))

theorem Table.agrees : reader.Agrees := agree.reader (by decide) "struct TableSpec"

/-! ## Components -/

theorem Component.Kind.agrees : union.reader.Agrees := by
  refine Union.agrees ?_
  simp only [union, List.forall_mem_cons]
  exact ⟨⟨Image.agree.map image, by decide⟩, ⟨TextField.agree.map textField, by decide⟩,
    ⟨Button.agree.map button, by decide⟩, ⟨Caption.agree.map text, by decide⟩,
    ⟨Spacer.agree.map spacer, by decide⟩, ⟨Table.agree.map table, by decide⟩,
    List.forall_mem_nil _⟩

theorem Component.agrees : reader.Agrees := by
  intro first second hlike json
  cases json with
  | obj members =>
    rw [Json.normalize_obj]
    have hid := Fields.tallies_once fun honce : Fields.Once ["id"] members =>
      Fields.tallies_member Reader.Agrees.text hlike
        (Fields.count_le_one_of_once honce (List.mem_singleton_self "id"))
    have hkind := (Kind.agrees .buffer .buffer Iff.rfl (.obj (members.filter (·.1 ≠ "id")))).mono
      fun hdistinct : (Json.obj members).Distinct => hdistinct.filter "id"
    rw [Json.normalize_obj, Json.canonical_filter] at hkind
    refine (hid.bind fun id _ _ => hkind.map (mk id)).congr (fun component => ?_) fun component => ?_
    · rw [exists_parts_iff]
      exact reader_obj_iff
    · rw [exists_parts_iff]
      exact reader_obj_iff
  | null | bool | num | str | arr => exact .never (fun _ => nofun) fun _ _ => nofun

theorem Screen.agrees : reader.Agrees := by
  refine Agree.reader ?_ (by decide) "struct Screen"
  exact Agree.make Screen.mk
    |>.field .text
    |>.optional .text
    |>.optional .text
    |>.field Layout.agrees
    |>.field Component.agrees.list

/-! ## Scopes -/

namespace Scope

/-- The scope of a kind, from its contents if there are any. -/
def Holds (kind : ScopeKind) : Option Json → Scope → Prop
  | none, scope => withoutContent kind = .ok scope
  | some json, scope => ofContent kind .value (.ofJson json) = .ok scope

theorem combine_ok_id {α : Type} (met : Met α) : Met.combine (.ok id) met = met := by
  cases met <;> rfl

theorem ofContent_eq (kind : ScopeKind) (first second : Origin) (draft : Draft) :
    ofContent kind first draft = ofContent kind second draft := by
  cases kind <;> cases draft <;> rfl

/-- Once the kind is known, what stands before it is read of its contents as what stands after it. -/
theorem ofMembers_eq_ok_iff {origin : Origin} {members : List (String × Json)} {kind : ScopeKind}
    {scope : Scope}
    (hfault : Fields.strayFault ["scope", "screen_id"] Draft.skipFault .closed [] 0
      (Draft.ofMembers members) = none)
    (hkind : (Fields.single "scope" ScopeKind.reader).ofMembers origin (Draft.ofMembers members) =
      .ok kind) :
    ofMembers origin (Draft.ofMembers members) .closed = .ok scope ↔
      Holds kind (members.lookup "screen_id") scope := by
  have hcontent := Fields.map_snd_firstMember? "screen_id" (Draft.ofMembers members)
  rw [Fields.lookup_ofMembers] at hcontent
  unfold ofMembers
  simp only [mapError_eq_ok_iff, hfault, hkind]
  cases hfind : members.lookup "screen_id" with
  | none =>
    rw [hfind] at hcontent
    rw [Option.map_eq_none_iff.1 hcontent]
    rw [combine_ok_id, combine_ok_id]
    exact mapError_eq_ok_iff
  | some json =>
    rw [hfind] at hcontent
    obtain ⟨⟨position, draft⟩, hfirst, hdraft⟩ := Option.map_eq_some_iff.1 hcontent
    obtain rfl : draft = .ofJson json := hdraft
    simp only [hfirst, Draft.keepFault_ofJson]
    rw [combine_ok_id]
    split
    · show Met.combine (.ok id) _ = _ ↔ _
      rw [combine_ok_id, mapError_eq_ok_iff, ofContent_eq kind .buffer .value]
      rfl
    · rw [combine_ok_id, mapError_eq_ok_iff, ofContent_eq kind origin .value]
      rfl

/-- The kind among the members, and the contents that are held for it wherever they stand. -/
theorem reader_obj_iff {origin : Origin} {members : List (String × Json)} {scope : Scope} :
    reader origin (.ofJson (.obj members)) = .ok scope ↔
      Fields.Once ["scope", "screen_id"] members ∧
        ∃ kind, (∃ json, members.lookup "scope" = some json ∧
          ScopeKind.reader origin (.ofJson json) = .ok kind) ∧
          Holds kind (members.lookup "screen_id") scope := by
  rw [Draft.ofJson]
  show ofMembers origin (Draft.ofMembers members) .closed = _ ↔ _
  have hstray := @Fields.strayFault_eq_none_iff ["scope", "screen_id"] [] Draft.skipFault members
    Draft.skipFault_ofJson 0
  simp only [← Fields.takes_single_iff, ← Fields.ofMembers_eq_ok_iff]
  cases hfault : Fields.strayFault ["scope", "screen_id"] Draft.skipFault .closed [] 0
      (Draft.ofMembers members) with
  | some met =>
    rw [hfault] at hstray
    have htwice : ¬ Fields.Once ["scope", "screen_id"] members := fun honce =>
      nomatch hstray.2 ⟨honce, fun _ _ _ => List.not_mem_nil⟩
    refine iff_of_false (fun h => ?_) fun h => htwice h.1
    obtain ⟨_, _, hstrays, _⟩ := Fields.combine_eq_ok_iff.1 (mapError_eq_ok_iff.1 h)
    rw [hfault] at hstrays
    cases hstrays
  | none =>
    rw [and_iff_right (hstray.1 hfault).1]
    cases hkind : (Fields.single "scope" ScopeKind.reader).ofMembers origin
        (Draft.ofMembers members) with
    | error met =>
      refine iff_of_false (fun h => ?_) nofun
      obtain ⟨_, _, _, h, _⟩ := Fields.combine_eq_ok_iff.1 (mapError_eq_ok_iff.1 h)
      obtain ⟨_, _, _, h, _⟩ := Fields.combine_eq_ok_iff.1 h
      rw [hkind] at h
      cases h
    | ok kind =>
      simp only [Except.ok.injEq, exists_eq_left']
      exact ofMembers_eq_ok_iff hfault hkind

theorem bareName_eq_ok_iff {origin : Origin} {json : Json} {kind : ScopeKind} :
    Reader.bareName ScopeKind.names origin (.ofJson json) = .ok kind ↔
      ∃ name, json = .str name ∧ Reader.pick ScopeKind.names name = .ok kind := by
  cases json with
  | str name =>
    show Reader.pick ScopeKind.names name = .ok kind ↔ _
    simp
  | null | bool | num | arr | obj => exact iff_of_false nofun nofun

theorem reader_arr_iff {origin : Origin} {items : List Json} {scope : Scope} :
    reader origin (.ofJson (.arr items)) = .ok scope ↔
      ∃ name content kind, items = [.str name, content] ∧
        Reader.pick ScopeKind.names name = .ok kind ∧ Holds kind (some content) scope := by
  rw [Draft.ofJson]
  match items with
  | [] => exact iff_of_false nofun nofun
  | [item] =>
    refine iff_of_false (fun h => ?_) nofun
    obtain ⟨_, _, h⟩ := bind_eq_ok_iff.1 h
    cases h
  | item :: content :: rest =>
    constructor
    · intro h
      obtain ⟨kind, hkind, h⟩ := bind_eq_ok_iff.1 h
      obtain ⟨held, hcontent, h⟩ := bind_eq_ok_iff.1 h
      obtain ⟨name, rfl, hpick⟩ := bareName_eq_ok_iff.1 hkind
      cases rest with
      | nil =>
        obtain ⟨_, _, h⟩ := bind_eq_ok_iff.1 h
        obtain rfl := pure_eq_ok_iff.1 h
        rw [ofContent_eq kind origin .value] at hcontent
        exact ⟨name, content, kind, rfl, hpick, hcontent⟩
      | cons next rest => cases origin <;> cases h
    · rintro ⟨name, _, kind, hitems, hpick, hcontent⟩
      obtain ⟨rfl, rfl, rfl⟩ : item = .str name ∧ content = _ ∧ rest = [] := by simpa using hitems
      refine bind_eq_ok_iff.2 ⟨kind, bareName_eq_ok_iff.2 ⟨name, rfl, hpick⟩, ?_⟩
      refine bind_eq_ok_iff.2 ⟨scope, ?_, rfl⟩
      rw [ofContent_eq kind origin .value]
      exact hcontent

theorem tallies_holds {strict : Prop} (kind : ScopeKind) (content : Option Json) :
    Tallies strict (Holds kind content) (Holds kind (content.map Json.normalize)) := by
  cases content with
  | none => exact .of_eq fun _ => Iff.rfl
  | some json =>
    refine .of_eq fun scope => ?_
    cases kind <;> cases json <;> rfl

theorem agrees : reader.Agrees := by
  intro first second hlike json
  cases json with
  | obj members =>
    rw [Json.normalize_obj]
    refine Tallies.congr ?_ (fun _ => reader_obj_iff) fun _ => reader_obj_iff
    refine Fields.tallies_once fun honce => ?_
    have hkind := Fields.tallies_member (Reader.Agrees.closedName ScopeKind.names) hlike
      (Fields.count_le_one_of_once honce List.mem_cons_self)
    refine hkind.bind fun kind _ _ => ?_
    rw [Json.lookup_canonical
      (Fields.count_le_one_of_once honce (List.mem_cons_of_mem _ List.mem_cons_self))]
    exact tallies_holds kind _
  | arr items =>
    rw [Json.normalize, Json.normalizeItems_eq_map]
    refine Tallies.congr ?_ (fun _ => reader_arr_iff) fun _ => reader_arr_iff
    by_cases hform : ∃ name content, items = [.str name, content]
    · obtain ⟨name, content, rfl⟩ := hform
      have hkind : Tallies (Json.arr [.str name, content]).Distinct
          (fun kind => Reader.pick ScopeKind.names name = .ok kind) fun kind =>
            Reader.pick ScopeKind.names name = .ok kind := .of_eq fun _ => Iff.rfl
      refine (hkind.bind fun kind _ _ => tallies_holds kind (some content)).congr (fun scope => ?_)
        fun scope => ?_
      · simp
      · simp [Json.normalize]
    · refine .never ?_ ?_
      · rintro _ ⟨name, content, _, hitems, _⟩
        exact hform ⟨name, content, hitems⟩
      · rintro _ _ ⟨name, content, _, hitems, _⟩
        obtain ⟨item, rest, rfl, hitem, hrest⟩ := List.map_eq_cons_iff.1 hitems
        obtain ⟨other, rfl, _⟩ := List.map_eq_singleton_iff.1 hrest
        cases item with
        | str text => exact hform ⟨text, other, rfl⟩
        | null | bool | num | arr | obj => cases hitem
  | null | bool | num | str => exact .never (fun _ => nofun) fun _ _ => nofun

end Scope

/-! ## Rules and transitions -/

theorem Condition.agrees : reader.Agrees := by
  refine Agree.reader ?_ (by decide) "struct Condition"
  exact Agree.make Condition.mk
    |>.field .text
    |>.field (.openName "Comparator" ["is_not_empty", "is_empty"] Comparator.ofName)
    |>.field .freeForm

theorem FieldCheck.agree : description.Agree :=
  Agree.make FieldCheck.mk
    |>.field (Reader.Agrees.list .text)
    |>.optional .flag
    |>.field .flag

theorem OperationCall.agree : description.Agree :=
  Agree.make OperationCall.mk
    |>.field .text
    |>.field (Reader.Agrees.bindings .freeForm)
    |>.optional .text
    |>.optional .text

theorem Step.agrees : reader.Agrees := by
  refine Union.agrees ?_
  simp only [union, List.forall_mem_cons]
  exact ⟨⟨FieldCheck.agree.map validate, by decide⟩, ⟨OperationCall.agree.map start, by decide⟩,
    List.forall_mem_nil _⟩

theorem AuthoredRule.agrees : reader.Agrees := by
  refine Agree.reader ?_ (by decide) "struct RuleDef"
  exact Agree.make AuthoredRule.mk
    |>.field .text
    |>.optional (.closedName ScopeKind.names)
    |>.optional .text
    |>.field .text
    |>.field Condition.agrees.list
    |>.field Step.agrees.list

theorem Rule.agrees : reader.Agrees := by
  refine Agree.reader ?_ (by decide) "struct Rule"
  exact Agree.make Rule.mk
    |>.field .text
    |>.field Scope.agrees
    |>.field .text
    |>.field Condition.agrees.list
    |>.field Step.agrees.list

theorem Transition.agrees : reader.Agrees := by
  refine Agree.reader ?_ (by decide) "struct Transition"
  exact Agree.make Transition.mk
    |>.field .text
    |>.field .text
    |>.field .text
    |>.field .text
    |>.field .flag

/-! ## Documents and specifications -/

theorem Document.Meta.agrees : reader.Agrees := by
  refine Agree.reader ?_ (by decide) "struct DocumentMeta"
  exact Agree.make Meta.mk
    |>.field .text
    |>.optional .text
    |>.optional .text
    |>.optional .text
    |>.optional .text

theorem Document.Access.agrees : reader.Agrees := by
  refine Agree.reader ?_ (by decide) "struct AccessRules"
  exact Agree.make Access.mk |>.optional .text |>.optional .text

theorem Document.Operational.agrees : reader.Agrees := by
  refine Agree.reader ?_ (by decide) "struct OperationalRules"
  exact Agree.make Operational.mk |>.optional Access.agrees

theorem Document.agrees : reader.Agrees := by
  refine Agree.reader ?_ (by decide) "struct SpecificationDocument"
  exact Agree.make Document.mk
    |>.optional Meta.agrees
    |>.field Screen.agrees.list
    |>.field AuthoredRule.agrees.list
    |>.field Transition.agrees.list
    |>.optional Operational.agrees

theorem Specification.agrees : reader.Agrees := by
  refine Agree.reader ?_ (by decide) "struct Specification"
  exact Agree.make unindexed
    |>.nullable Document.Meta.agrees
    |>.field .text
    |>.field Screen.agrees.list
    |>.field Rule.agrees.list
    |>.field Transition.agrees.list

/-! ## Sessions -/

theorem State.agrees : reader.Agrees := by
  refine Agree.reader ?_ (by decide) "struct RuntimeState"
  exact Agree.make State.mk
    |>.field .text
    |>.field (Reader.Agrees.bindings .text)
    |>.field (Reader.Agrees.bindings .text)

theorem Operation.agrees : reader.Agrees := by
  refine Agree.reader ?_ (by decide) "struct OperationRequest"
  exact Agree.make Operation.mk
    |>.field .text
    |>.field .text
    |>.field .text
    |>.field (Reader.Agrees.bindings .freeForm)
    |>.nullable .text
    |>.nullable .text

theorem Request.agrees : reader.Agrees := by
  refine Union.agrees ?_
  simp only [union, List.forall_mem_cons]
  refine ⟨trivial, ⟨?_, by decide⟩, ⟨?_, by decide⟩, List.forall_mem_nil _⟩
  · exact Agree.make inputChange |>.field .text |>.field .text |>.field .text
  · exact Agree.make buttonClick |>.field .text |>.field .text

theorem View.agrees : reader.Agrees := by
  refine Union.agrees ?_
  simp only [union, List.forall_mem_cons]
  refine ⟨⟨?_, by decide⟩, ⟨?_, by decide⟩, ⟨?_, by decide⟩, ⟨?_, by decide⟩, ⟨?_, by decide⟩,
    ⟨?_, by decide⟩, ⟨?_, by decide⟩, List.forall_mem_nil _⟩
  · exact Agree.make image |>.field .text |>.field .text |>.nullable .text |>.nullable .text
  · exact Agree.make textField
      |>.field .text
      |>.field .text
      |>.nullable .text
      |>.nullable .text
      |>.field .text
      |>.nullable .text
      |>.field .flag
  · exact Agree.make button
      |>.field .text
      |>.field .text
      |>.nullable .text
      |>.nullable .text
      |>.nullable .text
  · exact Agree.make text |>.field .text |>.field .text |>.nullable .text |>.nullable .text
  · exact Agree.make spacer |>.field .text |>.field .word32
  · exact Agree.make table
      |>.field .text
      |>.field Column.agrees.list
      |>.field (Reader.Agrees.list (.bindings .freeForm))
  · exact Agree.make unsupported |>.field .text

theorem Snapshot.agrees : reader.Agrees := by
  refine Agree.reader ?_ (by decide) "struct Snapshot"
  exact Agree.make Snapshot.mk
    |>.field .text
    |>.nullable .text
    |>.field Layout.agrees
    |>.field View.agrees.list
    |>.field (Reader.Agrees.bindings .text)
    |>.field (Reader.Agrees.bindings .text)

/-! ## Texts -/

theorem Ending.eq_closed_of_keepFault {ending : Ending} (h : ending.keepFault = none) :
    ending = .closed := by
  cases ending with
  | closed => rfl
  | cut | nameless => cases h

namespace Draft

mutual

/-- Without damage there is nothing but the value. -/
theorem ofJson_toJson : ∀ (draft : Draft), draft.keepFault = none → ofJson draft.toJson = draft
  | .null, _ | .bool _, _ | .num _, _ | .str _, _ => by simp only [ofJson, toJson]
  | .unfit _ _ _, h | .sealed _ _, h => by simp [keepFault] at h
  | .arr items ending, h => by
    rw [keepFault, Option.orElse_eq_none] at h
    rw [toJson, ofJson, ofItems_toItems items h.1, ending.eq_closed_of_keepFault h.2]
  | .obj members ending, h => by
    rw [keepFault, Option.orElse_eq_none] at h
    rw [toJson, ofJson, ofMembers_toMembers members h.1, ending.eq_closed_of_keepFault h.2]

theorem ofItems_toItems : ∀ (items : List Draft), keepFaultItems items = none →
    ofItems (toItems items) = items
  | [], _ => rfl
  | item :: items, h => by
    rw [keepFaultItems, Option.orElse_eq_none] at h
    rw [toItems, ofItems, ofJson_toJson item h.1, ofItems_toItems items h.2]

theorem ofMembers_toMembers : ∀ (members : List (String × Draft)), keepFaultMembers members = none →
    ofMembers (toMembers members) = members
  | [], _ => rfl
  | (name, draft) :: members, h => by
    rw [keepFaultMembers, Option.orElse_eq_none] at h
    rw [toMembers, ofMembers, ofJson_toJson draft h.1, ofMembers_toMembers members h.2]

end

end Draft

/-- The value in a text, with the members of objects as they are written. -/
def Json.written (text : String) : Json := (Draft.ofText text).1.toJson

theorem Fault.raise_eq_ok_iff {fault : Option Fault} : raise fault = .ok () ↔ fault = none := by
  cases fault with
  | none => exact iff_of_true rfl rfl
  | some fault => exact iff_of_false nofun nofun

/-- If a text is kept as a value, there is no damage in it. -/
theorem Draft.ofText_of_freeForm {text : String} {value : FreeForm}
    (h : Reader.freeForm.ofText text = .ok value) :
    ofText text = (ofJson (.written text), none) ∧ .ofJson (.written text) = value := by
  unfold Reader.ofText at h
  unfold Json.written
  generalize ofText text = parsed at h ⊢
  obtain ⟨draft, trailing⟩ := parsed
  obtain ⟨kept, hkept, h⟩ := bind_eq_ok_iff.1 h
  obtain ⟨_, htrailing, h⟩ := bind_eq_ok_iff.1 h
  obtain rfl := pure_eq_ok_iff.1 h
  have hnone : trailing = none := Fault.raise_eq_ok_iff.1 htrailing
  change draft.keep = .ok kept at hkept
  unfold keep at hkept
  cases hfault : draft.keepFault with
  | some fault =>
    rw [hfault] at hkept
    cases hkept
  | none =>
    rw [hfault] at hkept
    rw [ofJson_toJson draft hfault, hnone]
    exact ⟨rfl, Except.ok.inj hkept⟩

namespace Reader

variable {α : Type} {read : Reader α} {text : String} {value : FreeForm}

/-- A text without damage is read as the value that is written in it. -/
theorem ofText_of_freeForm (h : freeForm.ofText text = .ok value) :
    read.ofText text = read .text (.ofJson (.written text)) := by
  unfold ofText
  rw [(Draft.ofText_of_freeForm h).1]
  show (read .text (.ofJson (.written text)) >>= fun value => _) = _
  cases read .text (.ofJson (.written text)) <;> rfl

theorem ofValue_of_freeForm (h : freeForm.ofText text = .ok value) :
    read.ofValue value = read .value (.ofJson (Json.written text).normalize) := by
  rw [← (Draft.ofText_of_freeForm h).2]
  rfl

/-- Reading a text and reading the value in it come to the same. -/
structure Alike (read : Reader α) : Prop where
  /-- What the text and the value are both read as is the same. -/
  same : ∀ text value x y, freeForm.ofText text = .ok value →
    read.ofText text = .ok x → read.ofValue value = .ok y → x = y
  /-- If no object of the text repeats a name, both are read or neither is. -/
  reads : ∀ text value, freeForm.ofText text = .ok value → (Json.written text).Distinct →
    ((∃ x, read.ofText text = .ok x) ↔ ∃ y, read.ofValue value = .ok y)
  /-- If moreover another text has the same members in another order, it is read as the same. -/
  order : ∀ text other value rearranged, freeForm.ofText text = .ok value →
    freeForm.ofText other = .ok rearranged → (Json.written text).Distinct →
    (Json.written text).Rearranges (.written other) →
    ∀ x, read.ofText text = .ok x ↔ read.ofText other = .ok x

/-- What a text and the value in it are read as tallies. -/
theorem tallies_of_agrees (h : read.Agrees) (htext : freeForm.ofText text = .ok value) :
    Tallies (Json.written text).Distinct (fun x => read.ofText text = .ok x)
      fun x => read.ofValue value = .ok x := by
  have hlike : Origin.text.Like .value := iff_of_false nofun nofun
  rw [ofText_of_freeForm htext, ofValue_of_freeForm htext]
  exact h .text .value hlike (.written text)

theorem Agrees.alike (h : read.Agrees) : read.Alike where
  same := fun _ _ x y htext => (tallies_of_agrees h htext).same x y
  reads := fun _ _ htext => (tallies_of_agrees h htext).reads
  order := by
    intro text other value rearranged htext hother hdistinct hrearranges x
    have hvalues : rearranged = value := by
      rw [← (Draft.ofText_of_freeForm htext).2, ← (Draft.ofText_of_freeForm hother).2]
      unfold FreeForm.ofJson
      simp only [hrearranges.normalize_eq hdistinct]
    have hfirst := (tallies_of_agrees h htext).iff hdistinct x
    have hsecond := (tallies_of_agrees h hother).iff (hrearranges.distinct hdistinct) x
    rw [hfirst, hsecond, hvalues]

end Reader

/-- **Texts and the values in them are read alike**, as whatever type of a document or of a session. -/
theorem Reader.text_and_value_alike :
    Document.reader.Alike ∧ Screen.reader.Alike ∧ Component.reader.Alike ∧ Layout.reader.Alike ∧
      AuthoredRule.reader.Alike ∧ Condition.reader.Alike ∧ Step.reader.Alike ∧
      Transition.reader.Alike ∧ TextField.reader.Alike ∧ Table.reader.Alike ∧
      Request.reader.Alike ∧ State.reader.Alike ∧ Operation.reader.Alike ∧ Rule.reader.Alike ∧
      Scope.reader.Alike ∧ Specification.reader.Alike ∧ Snapshot.reader.Alike ∧ View.reader.Alike :=
  ⟨Document.agrees.alike, Screen.agrees.alike, Component.agrees.alike, Layout.agrees.alike,
    AuthoredRule.agrees.alike, Condition.agrees.alike, Step.agrees.alike,
    Transition.agrees.alike, TextField.agrees.alike, Table.agrees.alike,
    Request.agrees.alike, State.agrees.alike, Operation.agrees.alike, Rule.agrees.alike,
    Scope.agrees.alike, Specification.agrees.alike, Snapshot.agrees.alike, View.agrees.alike⟩

end ScreenFlow
