import ScreenFlow.Proofs.Codec.Document
import ScreenFlow.Session

/-!
# What a session is made of is read back

Locked specifications, states, operations, requests and snapshots are recovered from what is written
for them. A specification is if it has no index, since none is written.
-/

namespace ScreenFlow

open Fields (Wrote)

/-! ## Specifications -/

/-- A scope is written in key order. -/
theorem Scope.ordered_write (scope : Scope) : scope.write.Ordered := by
  cases scope with
  | global => exact ⟨List.pairwise_singleton _ _, trivial, trivial⟩
  | screen id =>
    have hlt : "scope" < "screen_id" := by decide
    exact ⟨List.pairwise_pair.2 hlt, trivial, trivial, trivial⟩

theorem Scope.faithful : Faithful reader write := by
  intro scope form origin
  rw [form.draft_of_ordered scope.ordered_write]
  cases scope <;> rfl

theorem Rule.faithful : Faithful reader write := by
  intro rule
  refine Fields.recovers "struct Rule" ?_ (by decide)
  exact Wrote.make Rule.mk
    |>.present (Faithful.text rule.id)
    |>.present (Scope.faithful rule.scope)
    |>.present (Faithful.text rule.onEvent)
    |>.present (Condition.faithful.list rule.guards)
    |>.present (Step.faithful.list rule.steps)

/-- What is written of a specification is recovered, without an index. -/
theorem Specification.recovers_unindexed (spec : Specification) :
    Recovers reader spec.write
      (unindexed spec.info spec.initialScreen spec.screens spec.rules spec.transitions) := by
  refine Fields.recovers "struct Specification" ?_ (by decide)
  exact Wrote.make unindexed
    |>.present (Document.Meta.faithful.orNull nofun spec.info)
    |>.present (Faithful.text spec.initialScreen)
    |>.present (Screen.faithful.list spec.screens)
    |>.present (Rule.faithful.list spec.rules)
    |>.present (Transition.faithful.list spec.transitions)

/-! ## States, operations and requests -/

theorem State.faithful : Faithful reader write := by
  intro state
  refine Fields.recovers "struct RuntimeState" ?_ (by decide)
  exact Wrote.make State.mk
    |>.present (Faithful.text state.activeScreen)
    |>.present (Faithful.text.bindings state.values)
    |>.present (Faithful.text.bindings state.errors)

theorem Operation.faithful : Faithful reader write := by
  intro operation
  refine Fields.recovers "struct OperationRequest" ?_ (by decide)
  exact Wrote.make Operation.mk
    |>.present (Faithful.text operation.screenId)
    |>.present (Faithful.text operation.ruleId)
    |>.present (Faithful.text operation.operation)
    |>.present (Faithful.freeForm.bindings operation.params)
    |>.present (Faithful.text.orNull nofun operation.successEvent)
    |>.present (Faithful.text.orNull nofun operation.errorEvent)

theorem Request.faithful : Faithful reader write := by
  rintro (_ | ⟨screenId, fieldId, value⟩ | ⟨screenId, buttonId⟩)
  · exact Union.recovers rfl (.unit view)
  · refine Union.recovers rfl (.record (by decide) ?_)
    exact Wrote.make inputChange
      |>.present (Faithful.text screenId)
      |>.present (Faithful.text fieldId)
      |>.present (Faithful.text value)
  · refine Union.recovers rfl (.record (by decide) ?_)
    exact Wrote.make buttonClick
      |>.present (Faithful.text screenId)
      |>.present (Faithful.text buttonId)

/-! ## Snapshots -/

theorem View.faithful : Faithful reader write := by
  intro view
  cases view with
  | image id source fitMode size =>
    refine Union.recovers rfl (.record (by decide) ?_)
    exact Wrote.make image
      |>.present (Faithful.text id)
      |>.present (Faithful.text source)
      |>.nullable .text nofun fitMode
      |>.nullable .text nofun size
  | textField id binding label placeholder value error secure =>
    refine Union.recovers rfl (.record (by decide) ?_)
    exact Wrote.make textField
      |>.present (Faithful.text id)
      |>.present (Faithful.text binding)
      |>.nullable .text nofun label
      |>.nullable .text nofun placeholder
      |>.present (Faithful.text value)
      |>.nullable .text nofun error
      |>.present (Faithful.flag secure)
  | button id content icon style width =>
    refine Union.recovers rfl (.record (by decide) ?_)
    exact Wrote.make button
      |>.present (Faithful.text id)
      |>.present (Faithful.text content)
      |>.nullable .text nofun icon
      |>.nullable .text nofun style
      |>.nullable .text nofun width
  | text id content variant align =>
    refine Union.recovers rfl (.record (by decide) ?_)
    exact Wrote.make text
      |>.present (Faithful.text id)
      |>.present (Faithful.text content)
      |>.nullable .text nofun variant
      |>.nullable .text nofun align
  | spacer id height =>
    refine Union.recovers rfl (.record (by decide) ?_)
    exact Wrote.make spacer
      |>.present (Faithful.text id)
      |>.present (Faithful.word32 height)
  | table id columns rows =>
    refine Union.recovers rfl (.record (by decide) ?_)
    exact Wrote.make table
      |>.present (Faithful.text id)
      |>.present (Column.faithful.list columns)
      |>.present (Faithful.freeForm.bindings.list rows)
  | unsupported id =>
    refine Union.recovers rfl (.record (by decide) ?_)
    exact Wrote.make unsupported |>.present (Faithful.text id)

theorem Snapshot.faithful : Faithful reader write := by
  intro snapshot
  refine Fields.recovers "struct Snapshot" ?_ (by decide)
  exact Wrote.make Snapshot.mk
    |>.present (Faithful.text snapshot.screenId)
    |>.nullable .text nofun snapshot.title
    |>.present (Layout.faithful snapshot.layout)
    |>.present (View.faithful.list snapshot.components)
    |>.present (Faithful.text.bindings snapshot.values)
    |>.present (Faithful.text.bindings snapshot.errors)

end ScreenFlow
