import ScreenFlow.Proofs.Codec.Session
import ScreenFlow.Reader.Whole

/-!
# Reading what was written

What is read, from a text or from a value and however it was spelled there, is read again from what
is written for it (`formats_roundTrip`).
-/

namespace ScreenFlow

/-- Writing and reading undo each other. -/
structure RoundTrips {α : Type} (read : Reader α) (write : α → Json) : Prop where
  /-- What is written is read as a value that is written alike. -/
  ofWritten : ∀ value origin, ∃ again,
    read origin (.ofJson (write value)) = .ok again ∧ write again = write value
  /-- What is read is read again: from its written form kept as a value, and from the members as
  they are written. -/
  ofRead : ∀ origin draft value, read origin draft = .ok value →
    read.ofValue (.ofJson (write value)) = .ok value ∧
      ∀ again, read again (.ofJson (write value)) = .ok value

theorem Faithful.roundTrips {α : Type} {read : Reader α} {write : α → Json}
    (h : Faithful read write) : RoundTrips read write where
  ofWritten := fun value origin => ⟨value, h value .written origin, rfl⟩
  ofRead := fun _ _ value _ => ⟨h value .ordered .value, h value .written⟩

/-- A specification that was read has no index. -/
theorem Specification.index_of_reader {origin : Origin} {draft : Draft} {spec : Specification}
    (h : reader origin draft = .ok spec) : spec.index = .empty := by
  refine Fields.holds_of_reader (fun spec : Specification => spec.index = .empty) ?_ h
  intro info initialScreen screens rules transitions
  rfl

/-- The index is not written, so only a specification without one is the same again. -/
theorem Specification.roundTrips : RoundTrips reader write where
  ofWritten := fun spec origin => ⟨_, spec.recovers_unindexed .written origin, rfl⟩
  ofRead := by
    intro origin draft spec hread
    have h := spec.recovers_unindexed
    rw [unindexed, ← index_of_reader hread] at h
    exact ⟨h .ordered .value, h .written⟩

/-- **Round trip.** Every part of the format is read again from what is written for it. -/
theorem formats_roundTrip :
    RoundTrips Document.reader Document.write ∧
    RoundTrips Screen.reader Screen.write ∧
    RoundTrips Component.reader Component.write ∧
    RoundTrips Layout.reader Layout.write ∧
    RoundTrips AuthoredRule.reader AuthoredRule.write ∧
    RoundTrips Condition.reader Condition.write ∧
    RoundTrips Step.reader Step.write ∧
    RoundTrips Transition.reader Transition.write ∧
    RoundTrips TextField.reader TextField.write ∧
    RoundTrips Table.reader Table.write ∧
    RoundTrips Request.reader Request.write ∧
    RoundTrips State.reader State.write ∧
    RoundTrips Operation.reader Operation.write ∧
    RoundTrips Rule.reader Rule.write ∧
    RoundTrips Scope.reader Scope.write ∧
    RoundTrips Specification.reader Specification.write ∧
    RoundTrips Snapshot.reader Snapshot.write ∧
    RoundTrips View.reader View.write :=
  ⟨Document.faithful.roundTrips, Screen.faithful.roundTrips, Component.faithful.roundTrips,
    Layout.faithful.roundTrips, AuthoredRule.faithful.roundTrips, Condition.faithful.roundTrips,
    Step.faithful.roundTrips, Transition.faithful.roundTrips, TextField.faithful.roundTrips,
    Table.faithful.roundTrips, Request.faithful.roundTrips, State.faithful.roundTrips,
    Operation.faithful.roundTrips, Rule.faithful.roundTrips, Scope.faithful.roundTrips,
    Specification.roundTrips, Snapshot.faithful.roundTrips, View.faithful.roundTrips⟩

end ScreenFlow
