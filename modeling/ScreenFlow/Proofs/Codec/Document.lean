import ScreenFlow.Document
import ScreenFlow.Proofs.Codec.Union

/-!
# Documents are read back

Every part of a document is recovered from what is written for it. For a record this follows its
fields one by one; a component is its id and a tagged union over the same members.
-/

namespace ScreenFlow

open Fields (Wrote)

/-! ## Layouts -/

theorem Orientation.faithful : Faithful reader write :=
  Faithful.openName "Orientation" ["vertical", "horizontal"] ofName_name

theorem Layout.faithful : Faithful reader write := by
  intro layout
  refine Fields.recovers "struct Layout" ?_ (by decide)
  exact Wrote.make Layout.mk
    |>.present (Orientation.faithful layout.orientation)
    |>.optional .text nofun layout.padding
    |>.optional .text nofun layout.spacing
    |>.optional .text nofun layout.horizontalAlignment
    |>.optional .text nofun layout.align

/-! ## Contents of components -/

theorem DataType.faithful : Faithful reader write :=
  Faithful.openName "DataType" ["email", "password", "string"] ofName_name

theorem Image.wrote (image : Image) : fields.Wrote image image.members :=
  Wrote.make Image.mk
    |>.optional .text nofun image.file
    |>.optional .text nofun image.fitMode
    |>.optional .text nofun image.size

theorem Validations.faithful : Faithful reader write := by
  intro validations
  refine Fields.recovers "struct Validations" ?_ (by decide)
  exact Wrote.make Validations.mk |>.optional .word64 nofun validations.minLength

theorem TextField.wrote (field : TextField) : fields.Wrote field field.members :=
  Wrote.make TextField.mk
    |>.optional .text nofun field.label
    |>.optional .text nofun field.placeholder
    |>.optional .text nofun field.dataModel
    |>.present (DataType.faithful field.dataType)
    |>.present (Faithful.flag field.required)
    |>.present (Validations.faithful field.validations)

theorem TextField.faithful : Faithful reader write := by
  intro field
  exact Fields.recovers "struct TextFieldSpec" field.wrote (by decide)

theorem Button.wrote (button : Button) : fields.Wrote button button.members :=
  Wrote.make Button.mk
    |>.present (Faithful.text button.text)
    |>.optional .text nofun button.icon
    |>.optional .text nofun button.style
    |>.optional .text nofun button.width

theorem Caption.wrote (caption : Caption) : fields.Wrote caption caption.members :=
  Wrote.make Caption.mk
    |>.present (Faithful.text caption.text)
    |>.optional .text nofun caption.variant
    |>.optional .text nofun caption.align

theorem Spacer.wrote (spacer : Spacer) : fields.Wrote spacer spacer.members :=
  Wrote.make Spacer.mk |>.optional .word32 nofun spacer.height

theorem Column.faithful : Faithful reader write := by
  intro column
  refine Fields.recovers "struct TableColumn" ?_ (by decide)
  exact Wrote.make Column.mk
    |>.present (Faithful.text column.id)
    |>.present (Faithful.text column.title)

theorem Table.wrote (table : Table) : fields.Wrote table table.members :=
  Wrote.make Table.mk
    |>.present (Column.faithful.list table.columns)
    |>.present (Faithful.freeForm.bindings.list table.rows)

theorem Table.faithful : Faithful reader write := by
  intro table
  exact Fields.recovers "struct TableSpec" table.wrote (by decide)

/-! ## Components -/

namespace Component

/-- The members of a kind are those of the body that its tag stands for, and none is an id. -/
theorem Kind.wrote (kind : Kind) :
    ∃ body, union.meaning? kind.tag = some body ∧ body.Wrote union.tag kind kind.members ∧
      "id" ∉ kind.members.map Prod.fst := by
  cases kind with
  | image value =>
    exact ⟨_, rfl, .record (by decide) (value.wrote.map image), value.wrote.notMem_keys (by decide)⟩
  | textField value =>
    exact ⟨_, rfl, .record (by decide) (value.wrote.map textField),
      value.wrote.notMem_keys (by decide)⟩
  | button value =>
    exact ⟨_, rfl, .record (by decide) (value.wrote.map button),
      value.wrote.notMem_keys (by decide)⟩
  | text value =>
    exact ⟨_, rfl, .record (by decide) (value.wrote.map text), value.wrote.notMem_keys (by decide)⟩
  | spacer value =>
    exact ⟨_, rfl, .record (by decide) (value.wrote.map spacer),
      value.wrote.notMem_keys (by decide)⟩
  | table value =>
    exact ⟨_, rfl, .record (by decide) (value.wrote.map table), value.wrote.notMem_keys (by decide)⟩
  | unknown => exact ⟨_, rfl, .unit unknown, List.not_mem_nil⟩

theorem faithful : Faithful reader write := by
  intro component form origin
  obtain ⟨body, hmeaning, hwrote, hid⟩ := component.kind.wrote
  have hfresh : "id" ∉ Kind.union.tag :: component.kind.members.map Prod.fst := by
    rw [List.mem_cons, not_or]
    exact ⟨by decide, hid⟩
  obtain ⟨drafts, hdraft, hlays⟩ := @Form.exists_lays form
    (("id", .str component.id) :: (Kind.union.tag, .str component.kind.tag) ::
      component.kind.members)
    (List.nodup_cons.2 ⟨hfresh, hwrote.nodup⟩)
  have hread : (Fields.single "id" .text).readMembers Draft.keepFault origin drafts .closed =
      .ok component.id :=
    Fields.readMembers_single origin hlays rfl (Faithful.text component.id)
  -- Without the id there are the tag and the members of the kind.
  have hkind := Union.read_of_lays .buffer (hlays.without hfresh) hmeaning hwrote
  show reader origin (form.draft (.obj
    (("id", _) :: (Kind.union.tag, _) :: component.kind.members))) = .ok component
  rw [hdraft]
  show (Fields.single "id" .text).readMembers _ _ _ _ >>= _ = _
  rw [hread]
  show Kind.union.reader .buffer _ >>= _ = _
  rw [hkind]
  rfl

end Component

theorem Screen.faithful : Faithful reader write := by
  intro screen
  refine Fields.recovers "struct Screen" ?_ (by decide)
  exact Wrote.make Screen.mk
    |>.present (Faithful.text screen.id)
    |>.optional .text nofun screen.title
    |>.optional .text nofun screen.description
    |>.present (Layout.faithful screen.layout)
    |>.present (Component.faithful.list screen.components)

/-! ## Rules and transitions -/

theorem Comparator.faithful : Faithful reader write :=
  Faithful.openName "Comparator" ["is_not_empty", "is_empty"] ofName_name

theorem Condition.faithful : Faithful reader write := by
  intro condition
  refine Fields.recovers "struct Condition" ?_ (by decide)
  exact Wrote.make Condition.mk
    |>.present (Faithful.text condition.field)
    |>.present (Comparator.faithful condition.comparator)
    |>.unlessDefault (Faithful.freeForm condition.operand)

theorem FieldCheck.wrote (check : FieldCheck) : description.Wrote check check.members :=
  Wrote.make FieldCheck.mk
    |>.present (Faithful.text.list check.fields)
    |>.present (Faithful.flag.orNull nofun check.showErrors)
    |>.present (Faithful.flag check.stopOnError)

theorem OperationCall.wrote (call : OperationCall) : description.Wrote call call.members :=
  Wrote.make OperationCall.mk
    |>.present (Faithful.text call.operation)
    |>.present (Faithful.freeForm.bindings call.params)
    |>.optional .text nofun call.successEvent
    |>.optional .text nofun call.errorEvent

theorem Step.faithful : Faithful reader write := by
  intro step
  cases step with
  | validate check =>
    exact Union.recovers rfl (.record (by decide) (check.wrote.map validate))
  | start call => exact Union.recovers rfl (.record (by decide) (call.wrote.map start))
  | unsupported => exact Union.recovers rfl (.unit unsupported)

theorem ScopeKind.faithful : Faithful reader write := by
  rintro (_ | _) <;> exact Faithful.recovers_closedName rfl

theorem AuthoredRule.faithful : Faithful reader write := by
  intro rule
  refine Fields.recovers "struct RuleDef" ?_ (by decide)
  exact Wrote.make AuthoredRule.mk
    |>.present (Faithful.text rule.id)
    |>.optional ScopeKind.faithful (by rintro (_ | _) <;> nofun) rule.scope
    |>.optional .text nofun rule.screenId
    |>.present (Faithful.text rule.onEvent)
    |>.present (Condition.faithful.list rule.guards)
    |>.present (Step.faithful.list rule.steps)

theorem Transition.faithful : Faithful reader write := by
  intro transition
  refine Fields.recovers "struct Transition" ?_ (by decide)
  exact Wrote.make Transition.mk
    |>.present (Faithful.text transition.id)
    |>.present (Faithful.text transition.event)
    |>.present (Faithful.text transition.source)
    |>.present (Faithful.text transition.target)
    |>.present (Faithful.flag transition.clearStack)

/-! ## Documents -/

namespace Document

theorem Meta.faithful : Faithful reader write := by
  intro info
  refine Fields.recovers "struct DocumentMeta" ?_ (by decide)
  exact Wrote.make Meta.mk
    |>.present (Faithful.text info.dslVersion)
    |>.optional .text nofun info.bundleVersion
    |>.optional .text nofun info.minEngineVersion
    |>.optional .text nofun info.appName
    |>.optional .text nofun info.environment

theorem Access.faithful : Faithful reader write := by
  intro access
  refine Fields.recovers "struct AccessRules" ?_ (by decide)
  exact Wrote.make Access.mk
    |>.optional .text nofun access.loginScreen
    |>.optional .text nofun access.unauthorizedScreen

theorem Operational.faithful : Faithful reader write := by
  intro operational
  refine Fields.recovers "struct OperationalRules" ?_ (by decide)
  exact Wrote.make Operational.mk |>.optional Access.faithful nofun operational.access

theorem faithful : Faithful reader write := by
  intro document
  refine Fields.recovers "struct SpecificationDocument" ?_ (by decide)
  exact Wrote.make Document.mk
    |>.optional Meta.faithful nofun document.info
    |>.present (Screen.faithful.list document.screens)
    |>.present (AuthoredRule.faithful.list document.rules)
    |>.present (Transition.faithful.list document.transitions)
    |>.optional Operational.faithful nofun document.operational

end Document

end ScreenFlow
