import ScreenFlow.Command.Console

/-!
# What a command brings out

A command brings out lines and operations and ends, apart from what it reports. `Run.Brings` says of a
command what that is, and the lemmas below say it of each way to put commands together.
-/

namespace ScreenFlow.Run

variable {α β : Type}

/-- The exit status of a command. -/
def status (run : Run α) : UInt32 :=
  match run.ended with
  | .ok _ => 0
  | .error _ => 1

/-- A command brings out some lines and some operations, and so it ends. -/
structure Brings (run : Run α) (lines : List String) (operations : List Operation)
    (ended : Except Failure α) : Prop where
  lines : run.lines = lines
  operations : run.operations = operations
  ended : run.ended = ended

/-- What a command brings out, and how it ends, as it is. -/
theorem brings (run : Run α) : run.Brings run.lines run.operations run.ended := ⟨rfl, rfl, rfl⟩

theorem status_eq_of_ended {run : Run α} {other : Run α} (h : run.ended = other.ended) :
    run.status = other.status := by
  unfold status
  rw [h]

theorem status_eq_zero_iff {run : Run α} : run.status = 0 ↔ ∃ value, run.ended = .ok value := by
  unfold status
  cases run.ended <;> simp

theorem Brings.status_error {run : Run α} {lines : List String} {operations : List Operation}
    {failure : Failure} (h : run.Brings lines operations (.error failure)) : run.status = 1 := by
  unfold status
  rw [h.ended]

/-! ## Commands put together -/

theorem brings_pure (value : α) : (pure value : Run α).Brings [] [] (.ok value) := ⟨rfl, rfl, rfl⟩

/-- A command goes on from a value. -/
theorem Brings.bind {run : Run α} {next : α → Run β} {value : α} {lines later : List String}
    {operations after : List Operation} {ended : Except Failure β}
    (h : run.Brings lines operations (.ok value)) (hnext : (next value).Brings later after ended) :
    (run >>= next).Brings (lines ++ later) (operations ++ after) ended := by
  have hbind : run >>= next = ⟨run.emitted ++ (next value).emitted, (next value).ended⟩ := by
    show Run.bind run next = _
    unfold Run.bind
    rw [h.ended]
  rw [hbind]
  constructor
  · rw [← h.lines, ← hnext.lines]
    exact List.filterMap_append
  · rw [← h.operations, ← hnext.operations]
    exact List.filterMap_append
  · exact hnext.ended

/-- A command that brings out nothing first. -/
theorem Brings.andThen {run : Run α} {next : α → Run β} {value : α} {lines : List String}
    {operations : List Operation} {ended : Except Failure β} (h : run.Brings [] [] (.ok value))
    (hnext : (next value).Brings lines operations ended) :
    (run >>= next).Brings lines operations ended := h.bind hnext

/-- A command that has failed does not go on. -/
theorem Brings.bind_error {run : Run α} {lines : List String} {operations : List Operation}
    {failure : Failure} (h : run.Brings lines operations (.error failure)) (next : α → Run β) :
    (run >>= next).Brings lines operations (.error failure) := by
  have hbind : run >>= next = ⟨run.emitted, .error failure⟩ := by
    show Run.bind run next = _
    unfold Run.bind
    rw [h.ended]
  rw [hbind]
  exact ⟨h.lines, h.operations, rfl⟩

/-- A command that ends with something else. -/
theorem Brings.replace {run : Run α} {lines : List String} {operations : List Operation}
    {ended : Except Failure α} (h : run.Brings lines operations ended) (result : β) :
    (run >>= fun _ => (pure result : Run β)).Brings lines operations (ended.map fun _ => result) := by
  cases ended with
  | ok value =>
    have hnext : (run >>= fun _ => (pure result : Run β)).Brings (lines ++ []) (operations ++ [])
        (.ok result) := h.bind (brings_pure result)
    rwa [List.append_nil, List.append_nil] at hnext
  | error failure => exact h.bind_error _

theorem ended_bind_eq_ok_iff {run : Run α} {next : α → Run β} {result : β} :
    (run >>= next).ended = .ok result ↔
      ∃ value, run.ended = .ok value ∧ (next value).ended = .ok result := by
  cases hended : run.ended with
  | ok value =>
    have hrun : run.Brings run.lines run.operations (.ok value) := ⟨rfl, rfl, hended⟩
    rw [(hrun.bind (next value).brings).ended]
    simp only [Except.ok.injEq, exists_eq_left']
  | error failure =>
    have hrun : run.Brings run.lines run.operations (.error failure) := ⟨rfl, rfl, hended⟩
    rw [(hrun.bind_error next).ended]
    simp only [reduceCtorEq, false_and, exists_false]

/-- It does not matter what a command ends with. -/
theorem brings_discard (run : Run α) :
    (run >>= fun _ => (pure () : Run Unit)).lines = run.lines ∧
      (run >>= fun _ => (pure () : Run Unit)).operations = run.operations ∧
      (run >>= fun _ => (pure () : Run Unit)).status = run.status := by
  have hnext := run.brings.replace ()
  refine ⟨hnext.lines, hnext.operations, ?_⟩
  unfold status
  rw [hnext.ended]
  cases run.ended <;> rfl

theorem brings_check {ε : Type} (failure : ε → Failure) (answer : Except ε α) :
    (check failure answer).Brings [] [] (answer.mapError failure) := ⟨rfl, rfl, rfl⟩

/-- A check that passes is no step. -/
theorem check_ok_bind {ε : Type} (failure : ε → Failure) (value : α) (next : α → Run β) :
    (check failure (.ok value) >>= next) = next value := rfl

/-! ## What is emitted -/

theorem brings_line (text : String) : (emit [.line text]).Brings [text] [] (.ok ()) :=
  ⟨rfl, rfl, rfl⟩

theorem brings_operations (operations : List Operation) :
    (emit (operations.map .operation)).Brings [] operations (.ok ()) where
  lines := by simp [lines, emit, List.filterMap_map]
  operations := by
    show (operations.map Emission.operation).filterMap _ = operations
    rw [List.filterMap_map]
    exact List.filterMap_some
  ended := rfl

theorem brings_reports (entries : List (Diagnostic × List Activity)) :
    (emit (entries.map fun entry => .report entry.1 entry.2)).Brings [] [] (.ok ()) where
  lines := by simp [lines, emit, List.filterMap_map]
  operations := by simp [operations, emit, List.filterMap_map]
  ended := rfl

theorem brings_report (diagnostics : List Diagnostic) :
    (report diagnostics).Brings [] [] (.ok ()) := by
  have h := brings_reports (diagnostics.map fun diagnostic => (diagnostic, []))
  rw [List.map_map] at h
  exact h

end ScreenFlow.Run
