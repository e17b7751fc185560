import ScreenFlow.Proofs.Codec.Revision
import ScreenFlow.Proofs.Codec.TextAndValue

/-!
# Documents of a later version

What a document may hold that is not known yet, and what it is read as then. Every object that is read
as a record, a component or a step may have one more member. A component or a step may be of a type
that is not known, and what is called by an open name may be called by another one.

For each type this is a revision of its values, wherever in the document they stand. The types are gone
through from the smallest parts to the document (`Document.Revises`), first what their revisions are
and then that they are sound.
-/

namespace ScreenFlow

/-! ## Revisions of parts -/

def Orientation.Revises : Revision Orientation := .Renamed ["vertical", "horizontal"] other

namespace Layout

def places : List (Place Layout) :=
  [⟨"type", orientation, fun layout part => { layout with orientation := part }, fun _ => rfl,
    Orientation.Revises⟩]

def Revises : Revision Layout := .Record fields.names places

end Layout

def DataType.Revises : Revision DataType := .Renamed ["email", "password", "string"] other

def Validations.Revises : Revision Validations := .Record fields.names []

def Column.Revises : Revision Column := .Record fields.names []

def TextField.places : List (Place TextField) :=
  [⟨"data_type", dataType, fun field part => { field with dataType := part }, fun _ => rfl,
      DataType.Revises⟩,
    ⟨"validations", validations, fun field part => { field with validations := part },
      fun _ => rfl, Validations.Revises⟩]

def Table.places : List (Place Table) :=
  [⟨"columns", columns, fun table part => { table with columns := part }, fun _ => rfl,
    .OfList Column.Revises⟩]

namespace Component

/-- The names of the members of a kind. -/
def Kind.names : Kind → List String
  | image _ => Image.fields.names
  | textField _ => TextField.fields.names
  | button _ => Button.fields.names
  | text _ => Caption.fields.names
  | spacer _ => Spacer.fields.names
  | table _ => Table.fields.names
  | unknown => []

/-- A member of a component is revised. Only text fields and tables hold what can be. -/
inductive Kind.Part : String → Revision Kind
  | textField {name : String} {novelty : Novelty} {old new : Json} {field result : TextField}
      (h : Place.Revised TextField.places name novelty old field new result) :
      Part name novelty old (.textField field) new (.textField result)
  | table {name : String} {novelty : Novelty} {old new : Json} {table result : Table}
      (h : Place.Revised Table.places name novelty old table new result) :
      Part name novelty old (.table table) new (.table result)

/-- How a component may be revised. -/
inductive Revises : Revision Component
  /-- A member that is not known is inserted. -/
  | insert (before after : List (String × Json)) {name : String} (value : Json)
      (component : Component) (h : name ∉ "id" :: "type" :: component.kind.names) :
      Revises .member (.obj (before ++ after)) component
        (.obj (before ++ (name, value) :: after)) component
  /-- The type is one that is not known. -/
  | retype (before after : List (String × Json)) {name : String} (old : Json)
      (component : Component)
      (h : name ∉ ["image", "text_field", "button", "text", "spacer", "table"]) :
      Revises .name (.obj (before ++ ("type", old) :: after)) component
        (.obj (before ++ ("type", .str name) :: after)) { component with kind := .unknown }
  | part (before after : List (String × Json)) {name : String} {novelty : Novelty}
      {old new : Json} (component : Component) {kind : Kind}
      (h : Kind.Part name novelty old component.kind new kind) :
      Revises novelty (.obj (before ++ (name, old) :: after)) component
        (.obj (before ++ (name, new) :: after)) { component with kind := kind }

end Component

namespace Screen

def places : List (Place Screen) :=
  [⟨"layout", layout, fun screen part => { screen with layout := part }, fun _ => rfl,
      Layout.Revises⟩,
    ⟨"components", components, fun screen part => { screen with components := part },
      fun _ => rfl, .OfList Component.Revises⟩]

def Revises : Revision Screen := .Record fields.names places

end Screen

def Comparator.Revises : Revision Comparator := .Renamed ["is_not_empty", "is_empty"] other

namespace Condition

def places : List (Place Condition) :=
  [⟨"comparator", comparator, fun condition part => { condition with comparator := part },
    fun _ => rfl, Comparator.Revises⟩]

def Revises : Revision Condition := .Record fields.names places

end Condition

namespace Step

/-- The names of the members of a step. -/
def names : Step → List String
  | validate _ => FieldCheck.description.names
  | start _ => OperationCall.description.names
  | unsupported => []

/-- How a step may be revised. -/
inductive Revises : Revision Step
  /-- A member that is not known is inserted. -/
  | insert (before after : List (String × Json)) {name : String} (value : Json) (step : Step)
      (h : name ∉ "type" :: step.names) :
      Revises .member (.obj (before ++ after)) step (.obj (before ++ (name, value) :: after)) step
  /-- The type is one that is not known. -/
  | retype (before after : List (String × Json)) {name : String} (old : Json) (step : Step)
      (h : name ∉ ["validate_fields", "start_operation"]) :
      Revises .name (.obj (before ++ ("type", old) :: after)) step
        (.obj (before ++ ("type", .str name) :: after)) .unsupported

end Step

namespace AuthoredRule

def places : List (Place AuthoredRule) :=
  [⟨"when", guards, fun rule part => { rule with guards := part }, fun _ => rfl,
      .OfList Condition.Revises⟩,
    ⟨"steps", steps, fun rule part => { rule with steps := part }, fun _ => rfl,
      .OfList Step.Revises⟩]

def Revises : Revision AuthoredRule := .Record fields.names places

end AuthoredRule

def Transition.Revises : Revision Transition := .Record fields.names []

namespace Document

def Meta.Revises : Revision Meta := .Record fields.names []

def Access.Revises : Revision Access := .Record fields.names []

namespace Operational

def places : List (Place Operational) :=
  [⟨"access", access, fun operational part => { operational with access := part },
    fun _ => rfl, .OfOption Access.Revises⟩]

def Revises : Revision Operational := .Record fields.names places

end Operational

def places : List (Place Document) :=
  [⟨"meta", info, fun document part => { document with info := part }, fun _ => rfl,
      .OfOption Meta.Revises⟩,
    ⟨"screens", screens, fun document part => { document with screens := part }, fun _ => rfl,
      .OfList Screen.Revises⟩,
    ⟨"rules", rules, fun document part => { document with rules := part }, fun _ => rfl,
      .OfList AuthoredRule.Revises⟩,
    ⟨"transitions", transitions, fun document part => { document with transitions := part },
      fun _ => rfl, .OfList Transition.Revises⟩,
    ⟨"operational_rules", operational, fun document part => { document with operational := part },
      fun _ => rfl, .OfOption Operational.Revises⟩]

/-- What may be written in place of a document, and what it is read as then. -/
def Revises : Revision Document := .Record fields.names places

end Document

/-! ## Open names -/

theorem Orientation.sound : Revises.Sound reader :=
  .renamed "Orientation" fun _ unknown => dif_neg unknown

theorem DataType.sound : Revises.Sound reader :=
  .renamed "DataType" fun _ unknown => dif_neg unknown

theorem Comparator.sound : Revises.Sound reader :=
  .renamed "Comparator" fun _ unknown => dif_neg unknown

/-! ## Records without places -/

theorem Validations.sound : Revises.Sound reader :=
  Revision.sound_record "struct Validations" (by decide) nofun

theorem Column.sound : Revises.Sound reader :=
  Revision.sound_record "struct TableColumn" (by decide) nofun

theorem Transition.sound : Revises.Sound reader :=
  Revision.sound_record "struct Transition" (by decide) nofun

theorem Document.Meta.sound : Revises.Sound reader :=
  Revision.sound_record "struct DocumentMeta" (by decide) nofun

theorem Document.Access.sound : Revises.Sound reader :=
  Revision.sound_record "struct AccessRules" (by decide) nofun

/-! ## Components -/

theorem TextField.fits : ∀ place ∈ places, place.Fits fields := by
  rw [places, List.forall_mem_cons, List.forall_mem_singleton]
  constructor
  · refine ⟨DataType.reader, DataType.sound, .earlier (.earlier (.last ?_))⟩
    exact fun _ _ _ _ _ _ => ⟨rfl, rfl⟩
  · refine ⟨Validations.reader, Validations.sound, .last ?_⟩
    exact fun _ _ _ _ _ _ => ⟨rfl, rfl⟩

theorem Table.fits : ∀ place ∈ places, place.Fits fields := by
  rw [places, List.forall_mem_singleton]
  refine ⟨.list Column.reader, Column.sound.ofList, .earlier (.last ?_)⟩
  exact fun _ _ => ⟨rfl, rfl⟩

namespace Component

/-- A kind is read by the variant of its tag, with the names of that variant. -/
theorem Kind.tells : union.Tells tag names := by
  unfold Union.Tells
  simp only [union, List.forall_mem_cons]
  exact ⟨fun _ _ _ => ⟨rfl, rfl⟩, fun _ _ _ _ _ _ => ⟨rfl, rfl⟩, fun _ _ _ _ => ⟨rfl, rfl⟩,
    fun _ _ _ => ⟨rfl, rfl⟩, fun _ => ⟨rfl, rfl⟩, fun _ _ => ⟨rfl, rfl⟩, List.forall_mem_nil _⟩

theorem Kind.tag_of_fallback {kind : Kind} (h : union.fallback = some kind) :
    kind.tag = "unknown" := by
  obtain rfl : unknown = kind := Option.some.inj h
  rfl

theorem Kind.reader_part {name : String} {novelty : Novelty} {old new : Json} {kind result : Kind}
    {origin : Origin} {before after : List (String × Json)}
    (h : Part name novelty old kind new result)
    (hread : union.reader origin (.ofJson (.obj (before ++ (name, old) :: after))) = .ok kind) :
    union.reader origin (.ofJson (.obj (before ++ (name, new) :: after))) = .ok result := by
  have hdistinct : (union.variants.map Prod.fst).Nodup := by decide
  cases h with
  | textField h =>
    have hvariant : ("text_field", .record "struct TextFieldSpec" (TextField.fields.map textField)) ∈
        union.variants := .tail _ (.head _)
    refine Union.reader_part tells hvariant (fun _ _ => textField.inj) rfl hdistinct ?_
      TextField.fits (by decide) (by decide) h hread
    intro kind hkind
    rw [tag_of_fallback hkind]
    decide
  | table h =>
    have hvariant : ("table", .record "struct TableSpec" (Table.fields.map Kind.table)) ∈
        union.variants := List.mem_of_getLast? rfl
    refine Union.reader_part tells hvariant (fun _ _ => table.inj) rfl hdistinct ?_
      Table.fits (by decide) (by decide) h hread
    intro kind hkind
    rw [tag_of_fallback hkind]
    decide

theorem Kind.Part.ne_id {name : String} {novelty : Novelty} {old new : Json} {kind result : Kind}
    (h : Part name novelty old kind new result) : name ≠ "id" := by
  cases h with
  | textField h => exact ne_of_mem_of_not_mem (h.mem_names TextField.fits) (by decide)
  | table h => exact ne_of_mem_of_not_mem (h.mem_names Table.fits) (by decide)

theorem Kind.Part.keeps {name : String} {old new : Json} {kind result : Kind}
    (h : Part name .member old kind new result) : result = kind := by
  cases h with
  | textField h => rw [h.keeps TextField.fits]
  | table h => rw [h.keeps Table.fits]

/-- A member besides the id only matters to the kind. -/
theorem reader_replace {origin : Origin} {before after : List (String × Json)} {name : String}
    {old new : Json} {component : Component} {kind : Kind} (hname : name ≠ "id")
    (hkind : ∀ {before after : List (String × Json)},
      Kind.union.reader .buffer (.ofJson (.obj (before ++ (name, old) :: after))) =
          .ok component.kind →
        Kind.union.reader .buffer (.ofJson (.obj (before ++ (name, new) :: after))) = .ok kind)
    (hread : reader origin (.ofJson (.obj (before ++ (name, old) :: after))) = .ok component) :
    reader origin (.ofJson (.obj (before ++ (name, new) :: after))) =
      .ok { component with kind := kind } := by
  rw [reader_obj_iff, lookup_middle_of_ne hname.symm, filter_middle hname] at hread ⊢
  exact ⟨⟨Fields.once_replace new hread.1.1, hread.1.2⟩, hkind hread.2⟩

theorem sound : Revision.Sound Revises reader where
  reads := by
    intro novelty old component new result hrevises origin hread
    cases hrevises with
    | @insert before after name value _ hname =>
      rw [List.mem_cons, List.mem_cons, not_or, not_or] at hname
      obtain ⟨hid, htype, hname⟩ := hname
      rw [reader_obj_iff, List.filter_append] at hread
      rw [reader_obj_iff, lookup_middle_of_ne (Ne.symm hid), filter_middle hid]
      obtain ⟨⟨honce, hlookup⟩, hkind⟩ := hread
      refine ⟨⟨(Fields.once_insert (by simpa using hid)).2 honce, hlookup⟩, ?_⟩
      exact Union.reader_insert Kind.tells htype hname hkind
    | retype before after old _ hname =>
      refine reader_replace (by decide) (fun hkind => ?_) hread
      exact Union.reader_retag rfl hname hkind
    | part before after _ hpart =>
      exact reader_replace hpart.ne_id (Kind.reader_part hpart) hread
  keeps := by
    intro old component new result hrevises
    cases hrevises with
    | insert => rfl
    | part before after _ hpart => rw [hpart.keeps]

end Component

/-! ## Screens -/

theorem Layout.sound : Revises.Sound reader := by
  refine Revision.sound_record "struct Layout" (by decide) ?_
  rw [places, List.forall_mem_singleton]
  refine ⟨Orientation.reader, Orientation.sound, ?_⟩
  refine .earlier (.earlier (.earlier (.earlier (.last ?_))))
  exact fun _ _ _ _ _ => ⟨rfl, rfl⟩

theorem Screen.sound : Revises.Sound reader := by
  refine Revision.sound_record "struct Screen" (by decide) ?_
  rw [places, List.forall_mem_cons, List.forall_mem_singleton]
  constructor
  · refine ⟨Layout.reader, Layout.sound, .earlier (.last ?_)⟩
    exact fun _ _ _ _ _ => ⟨rfl, rfl⟩
  · refine ⟨.list Component.reader, Revision.Sound.ofList Component.sound, .last ?_⟩
    exact fun _ _ _ _ _ => ⟨rfl, rfl⟩

/-! ## Rules -/

theorem Condition.sound : Revises.Sound reader := by
  refine Revision.sound_record "struct Condition" (by decide) ?_
  rw [places, List.forall_mem_singleton]
  refine ⟨Comparator.reader, Comparator.sound, .earlier (.last ?_)⟩
  exact fun _ _ _ => ⟨rfl, rfl⟩

/-- A step is read by the variant of its tag, with the names of that variant. -/
theorem Step.tells : union.Tells tag names := by
  unfold Union.Tells
  simp only [union, List.forall_mem_cons]
  exact ⟨fun _ _ _ => ⟨rfl, rfl⟩, fun _ _ _ _ => ⟨rfl, rfl⟩, List.forall_mem_nil _⟩

theorem Step.sound : Revision.Sound Revises reader where
  reads := by
    intro novelty old step new result hrevises origin hread
    cases hrevises with
    | insert before after value _ hname =>
      rw [List.mem_cons, not_or] at hname
      exact Union.reader_insert tells hname.1 hname.2 hread
    | retype before after old _ hname => exact Union.reader_retag rfl hname hread
  keeps := by
    intro old step new result hrevises
    cases hrevises with
    | insert => rfl

theorem AuthoredRule.sound : Revises.Sound reader := by
  refine Revision.sound_record "struct RuleDef" (by decide) ?_
  rw [places, List.forall_mem_cons, List.forall_mem_singleton]
  constructor
  · refine ⟨.list Condition.reader, Condition.sound.ofList, .earlier (.last ?_)⟩
    exact fun _ _ _ _ _ _ => ⟨rfl, rfl⟩
  · refine ⟨.list Step.reader, Revision.Sound.ofList Step.sound, .last ?_⟩
    exact fun _ _ _ _ _ _ => ⟨rfl, rfl⟩

/-! ## Documents -/

namespace Document

theorem Operational.sound : Revises.Sound reader := by
  refine Revision.sound_record "struct OperationalRules" (by decide) ?_
  rw [places, List.forall_mem_singleton]
  refine ⟨.optional Access.reader, Access.sound.ofOption nofun, .last ?_⟩
  exact fun _ => ⟨rfl, rfl⟩

theorem sound : Revises.Sound reader := by
  refine Revision.sound_record "struct SpecificationDocument" (by decide) ?_
  simp only [places, List.forall_mem_cons]
  refine ⟨⟨.optional Meta.reader, Meta.sound.ofOption nofun, ?_⟩,
    ⟨.list Screen.reader, Screen.sound.ofList, ?_⟩,
    ⟨.list AuthoredRule.reader, AuthoredRule.sound.ofList, ?_⟩,
    ⟨.list Transition.reader, Transition.sound.ofList, ?_⟩,
    ⟨.optional Operational.reader, Operational.sound.ofOption nofun, ?_⟩, List.forall_mem_nil _⟩
  · exact .earlier (.earlier (.earlier (.earlier (.last fun _ _ _ _ _ => ⟨rfl, rfl⟩))))
  · exact .earlier (.earlier (.earlier (.last fun _ _ _ _ _ => ⟨rfl, rfl⟩)))
  · exact .earlier (.earlier (.last fun _ _ _ _ _ => ⟨rfl, rfl⟩))
  · exact .earlier (.last fun _ _ _ _ _ => ⟨rfl, rfl⟩)
  · exact .last fun _ _ _ _ _ => ⟨rfl, rfl⟩

/-- **A document for a later version is read**, as the revision of what it was read as before: from a
value, and from a text that holds the value. If all that is new is a member, it is read as before. -/
theorem reads_revised {novelty : Novelty} {old new : Json} {document revised : Document}
    (h : Revises novelty old document new revised) :
    (∀ origin, reader origin (.ofJson old) = .ok document →
      reader origin (.ofJson new) = .ok revised) ∧
      (∀ before after value other,
        Reader.freeForm.ofText before = .ok value → Json.written before = old →
        Reader.freeForm.ofText after = .ok other → Json.written after = new →
        reader.ofText before = .ok document → reader.ofText after = .ok revised) ∧
      (novelty = .member → revised = document) := by
  refine ⟨sound.reads h, ?_, ?_⟩
  · intro before after value other hbefore hold hafter hnew hread
    rw [Reader.ofText_of_freeForm hbefore, hold] at hread
    rw [Reader.ofText_of_freeForm hafter, hnew]
    exact sound.reads h .text hread
  · rintro rfl
    exact sound.keeps h

/-- A button that becomes a slider. -/
theorem reads_revised_slider :
    reader .value (.ofJson (.obj [("screens", .arr [.obj [("id", .str "home"),
      ("components", .arr [.obj [("id", .str "send"), ("type", .str "slider")]])]])])) =
        .ok ⟨none, [⟨"home", none, none, .standard, [⟨"send", .unknown⟩]⟩], [], [], none⟩ := by
  have hcomponent : Component.Revises .name
      (.obj [("id", .str "send"), ("type", .str "button")])
      ⟨"send", .button ⟨"", none, none, none⟩⟩
      (.obj [("id", .str "send"), ("type", .str "slider")]) ⟨"send", .unknown⟩ :=
    .retype [("id", .str "send")] [] _ _ (by decide)
  have hscreen : Screen.Revises .name
      (.obj [("id", .str "home"),
        ("components", .arr [.obj [("id", .str "send"), ("type", .str "button")]])])
      ⟨"home", none, none, .standard, [⟨"send", .button ⟨"", none, none, none⟩⟩]⟩
      (.obj [("id", .str "home"),
        ("components", .arr [.obj [("id", .str "send"), ("type", .str "slider")]])])
      ⟨"home", none, none, .standard, [⟨"send", .unknown⟩]⟩ :=
    .member [("id", .str "home")] [] (.part (.tail _ (.head _)) (.item [] [] [] [] rfl hcomponent))
  have hdocument : Revises .name
      (.obj [("screens", .arr [.obj [("id", .str "home"),
        ("components", .arr [.obj [("id", .str "send"), ("type", .str "button")]])]])])
      ⟨none, [⟨"home", none, none, .standard, [⟨"send", .button ⟨"", none, none, none⟩⟩]⟩], [], [],
        none⟩
      (.obj [("screens", .arr [.obj [("id", .str "home"),
        ("components", .arr [.obj [("id", .str "send"), ("type", .str "slider")]])]])])
      ⟨none, [⟨"home", none, none, .standard, [⟨"send", .unknown⟩]⟩], [], [], none⟩ :=
    .member [] [] (.part (.tail _ (.head _)) (.item [] [] [] [] rfl hscreen))
  exact (reads_revised hdocument).1 .value rfl

end Document

end ScreenFlow
