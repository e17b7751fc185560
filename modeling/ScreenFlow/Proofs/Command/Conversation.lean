import ScreenFlow.Proofs.Command.Run
import ScreenFlow.Proofs.Session.ActiveScreen
import ScreenFlow.Proofs.Session.Launch
import ScreenFlow.Proofs.Text.Lines

/-!
# Conversations with a session

A session on the console is given lines, and most lines may be anything: only a line whose text reads
as a request counts (`Request.onLine?`).

1. A line without a request brings nothing out and leaves the session as it is (`brings_answer_idle`);
   a line with one brings out what the turn of that request does (`brings_serve`).
2. So a session on a screen goes through the requests on its lines up to the first one for a screen
   that is not there, and fails exactly if there is one (`converses_answerAll`).
3. Whether a bundle is checked, viewed or run, it is loaded the same way, and of what is loaded a
   session starts and is shown (`exists_greeting`). That is all that can fail before the first line,
   so the three commands agree (`commands_agree`).
-/

namespace ScreenFlow

/-- The request on a line. -/
def Request.onLine? (line : String) : Option Request :=
  (Request.reader.ofText (Text.trim line)).toOption

/-- Whether a request names no screen, or one that is there. -/
def Specification.knows (spec : Specification) (request : Request) : Bool :=
  request.screenId?.all fun id => decide (id ∈ spec.screens.map Screen.id)

/-- A command goes through requests to a session: after a greeting it shows the snapshot of each turn
up to the first request for a screen that is not there, it fails exactly if there is one, and otherwise
it starts the operations of all turns. -/
structure Session.Converses {α : Type} (session : Session) (greeting : List Snapshot)
    (requests : List Request) (run : Run α) : Prop where
  lines : ∃ snapshots,
    List.Forall₂ (fun turn snapshot => turn.answer = .ok snapshot)
      (session.turns (requests.takeWhile session.specification.knows)) snapshots ∧
    run.lines = (greeting ++ snapshots).map fun snapshot => snapshot.write.compact
  status : run.status = if requests.all session.specification.knows then 0 else 1
  operations : run.status = 0 → run.operations = (session.turns requests).flatMap Turn.dispatched

namespace Session.Converses

variable {α β : Type} {session : Session} {requests : List Request} {request : Request}

/-- A command that first brings out no more than a greeting. -/
theorem after_greeting {run : Run α} {next : α → Run β} {value : α} {greeting : List Snapshot}
    (hrun : run.Brings (greeting.map fun first => first.write.compact) [] (.ok value))
    (h : session.Converses [] requests (next value)) :
    session.Converses greeting requests (run >>= next) := by
  have hnext := hrun.bind (next value).brings
  have hstatus : (run >>= next).status = (next value).status := Run.status_eq_of_ended hnext.ended
  obtain ⟨snapshots, hanswers, hlines⟩ := h.lines
  constructor
  · refine ⟨snapshots, hanswers, ?_⟩
    rw [hnext.lines, hlines, List.nil_append, List.map_append]
  · rw [hstatus]
    exact h.status
  · rw [hstatus, hnext.operations]
    exact h.operations

/-- A request whose screen is there, and then others. -/
theorem after_request {run : Run α} {next : α → Run β} {value : α} {snapshot : Snapshot}
    (hknows : session.specification.knows request = true)
    (hanswer : (session.handle request).answer = .ok snapshot)
    (hrun : run.Brings [snapshot.write.compact] (session.handle request).dispatched (.ok value))
    (h : (session.after request).Converses [] requests (next value)) :
    session.Converses [] (request :: requests) (run >>= next) := by
  have hnext := hrun.bind (next value).brings
  have hstatus : (run >>= next).status = (next value).status := Run.status_eq_of_ended hnext.ended
  obtain ⟨snapshots, hanswers, hlines⟩ := h.lines
  constructor
  · refine ⟨snapshot :: snapshots, ?_, ?_⟩
    · rw [List.takeWhile_cons_of_pos hknows]
      exact .cons hanswer hanswers
    · rw [hnext.lines, hlines]
      rfl
  · rw [hstatus, List.all_cons, hknows, Bool.true_and]
    exact h.status
  · intro hended
    rw [hstatus] at hended
    rw [hnext.operations, h.operations hended]
    rfl

/-- A request for a screen that is not there ends the command. -/
theorem of_unknown {run : Run α} {operations : List Operation} {failure : Failure}
    (hknows : ¬ session.specification.knows request = true)
    (hrun : run.Brings [] operations (.error failure)) :
    session.Converses [] (request :: requests) run := by
  constructor
  · refine ⟨[], ?_, hrun.lines⟩
    rw [List.takeWhile_cons_of_neg hknows]
    exact .nil
  · rw [hrun.status_error, List.all_cons, Bool.eq_false_iff.2 hknows, Bool.false_and]
    rfl
  · rw [hrun.status_error]
    intro hended
    cases hended

/-- It does not matter what a command ends with. -/
theorem discard {run : Run α} {greeting : List Snapshot}
    (h : session.Converses greeting requests run) :
    session.Converses greeting requests (do let _ ← run) := by
  obtain ⟨hlines, hoperations, hstatus⟩ := run.brings_discard
  constructor
  · rw [hlines]
    exact h.lines
  · rw [hstatus]
    exact h.status
  · rw [hstatus, hoperations]
    exact h.operations

/-- What a command does in a conversation is settled by the requests, but for the operations of one
that fails. -/
theorem agree {run : Run α} {other : Run β} {greeting : List Snapshot}
    (h : session.Converses greeting requests run) (hother : session.Converses greeting requests other) :
    other.lines = run.lines ∧ other.status = run.status ∧
      (run.status = 0 → other.operations = run.operations) := by
  have hstatus : other.status = run.status := by rw [hother.status, h.status]
  obtain ⟨snapshots, hanswers, hlines⟩ := h.lines
  obtain ⟨others, hothers, hlines'⟩ := hother.lines
  have hsame : others = snapshots := by
    refine Relator.RightUnique.forall₂ (fun turn first second hfirst hsecond => ?_) hothers hanswers
    exact Except.ok.inj (hfirst.symm.trans hsecond)
  refine ⟨?_, hstatus, fun hended => ?_⟩
  · rw [hlines, hlines', hsame]
  · rw [h.operations hended, hother.operations (hstatus.trans hended)]

end Session.Converses

/-- Some lines are deleted that hold no request. -/
inductive Spares : List String → List String → Prop
  | nil : Spares [] []
  | keep (line : String) {lines kept : List String} (rest : Spares lines kept) :
      Spares (line :: lines) (line :: kept)
  | drop {line : String} {lines kept : List String} (idle : Request.onLine? line = none)
      (rest : Spares lines kept) : Spares (line :: lines) kept

theorem Spares.sublist {lines kept : List String} (h : Spares lines kept) : kept.Sublist lines := by
  induction h with
  | nil => exact .slnil
  | keep line _ ih => exact ih.cons_cons line
  | drop _ _ ih => exact ih.cons _

theorem Spares.requests {lines kept : List String} (h : Spares lines kept) :
    kept.filterMap Request.onLine? = lines.filterMap Request.onLine? := by
  induction h with
  | nil => rfl
  | keep line _ ih => rw [List.filterMap_cons, List.filterMap_cons, ih]
  | drop idle _ ih => rw [List.filterMap_cons_none idle, ih]

namespace Console

variable {session : Session}

/-! ## One line -/

/-- The line as it is put in is read as its text without the blanks around it. -/
theorem answer_toUTF8 (session : Session) (line : String) :
    answer session line.toUTF8 =
      if (Text.trim line).isEmpty then pure session
      else
        match Request.reader.ofText (Text.trim line) with
        | .error _ => do
          report [.requestSkipped]
          return session
        | .ok request => serve session request := by
  obtain ⟨text, hdecode, htrim⟩ := Text.exists_decode_withoutEnd line
  unfold answer
  rw [hdecode, Run.check_ok_bind]
  cases hread : Request.reader.ofText (Text.trim line) with
  | error => simp only [htrim, hread]
  | ok => simp only [htrim, hread]

theorem brings_answer_idle {line : String} (session : Session) (h : Request.onLine? line = none) :
    (answer session line.toUTF8).Brings [] [] (.ok session) := by
  rw [answer_toUTF8]
  unfold Request.onLine? at h
  split
  · exact Run.brings_pure session
  · split
    · exact (Run.brings_report _).andThen (Run.brings_pure session)
    · next request hread =>
      rw [hread] at h
      cases h

theorem answer_request {line : String} {request : Request} (session : Session)
    (h : Request.onLine? line = some request) :
    answer session line.toUTF8 = serve session request := by
  rw [answer_toUTF8]
  unfold Request.onLine? at h
  split
  · next hblank =>
    rw [String.isEmpty_iff.1 hblank] at h
    cases h
  · split
    · next _ hread =>
      rw [hread] at h
      cases h
    · next other hread =>
      rw [hread] at h
      obtain rfl := Option.some.inj h
      rfl

/-! ## One request -/

theorem brings_serve {request : Request} {snapshot : Snapshot}
    (h : (session.handle request).answer = .ok snapshot) :
    (serve session request).Brings [snapshot.write.compact] (session.handle request).dispatched
      (.ok (session.after request)) := by
  rw [← List.append_nil (session.handle request).dispatched]
  refine (Run.brings_reports _).andThen ?_
  refine (Run.brings_operations _).bind ?_
  rw [h, Run.check_ok_bind]
  exact (Run.brings_line _).bind (Run.brings_pure _)

theorem brings_serve_error {request : Request} {missing : ScreenNotFound}
    (h : (session.handle request).answer = .error missing) :
    (serve session request).Brings [] (session.handle request).dispatched
      (.error (.request missing)) := by
  rw [← List.append_nil (session.handle request).dispatched]
  refine (Run.brings_reports _).andThen ?_
  refine (Run.brings_operations _).bind ?_
  rw [h]
  exact (Run.brings_check Failure.request (.error missing)).bind_error _

/-- On a screen, a request is answered exactly if its screen is there. -/
theorem answer_of_knows (hserves : session.Serves) {request : Request}
    (h : session.specification.knows request = true) :
    ∃ snapshot, (session.handle request).answer = .ok snapshot := by
  cases hanswer : (session.handle request).answer with
  | ok snapshot => exact ⟨snapshot, rfl⟩
  | error missing =>
    obtain ⟨hnames, habsent⟩ := (hserves.error_iff request missing).1 hanswer
    unfold Specification.knows at h
    rw [hnames, Option.all_some, decide_eq_true_eq] at h
    exact absurd h habsent

theorem answer_of_not_knows (hserves : session.Serves) {request : Request}
    (h : ¬ session.specification.knows request = true) :
    ∃ missing, (session.handle request).answer = .error missing := by
  unfold Specification.knows at h
  cases hnames : request.screenId? with
  | none =>
    rw [hnames] at h
    exact absurd rfl h
  | some id =>
    rw [hnames, Option.all_some, decide_eq_true_eq] at h
    exact ⟨⟨id⟩, (hserves.error_iff request ⟨id⟩).2 ⟨hnames, h⟩⟩

/-! ## All lines -/

theorem converses_answerAll (hspec : session.specification.Connected) (h : session.OnScreen)
    (lines : List String) :
    session.Converses [] (lines.filterMap Request.onLine?)
      (answerAll session (lines.map String.toUTF8)) := by
  induction lines generalizing session with
  | nil => exact ⟨⟨[], .nil, rfl⟩, rfl, fun _ => rfl⟩
  | cons line lines ih =>
    have hcons : answerAll session ((line :: lines).map String.toUTF8) =
        answer session line.toUTF8 >>= fun next => answerAll next (lines.map String.toUTF8) := rfl
    rw [hcons]
    cases hline : Request.onLine? line with
    | none =>
      rw [List.filterMap_cons_none hline]
      exact .after_greeting (brings_answer_idle session hline) (ih hspec h)
    | some request =>
      rw [List.filterMap_cons_some hline, answer_request session hline]
      have hserves := Session.serves_of_onScreen hspec h
      by_cases hknows : session.specification.knows request = true
      · obtain ⟨snapshot, hanswer⟩ := answer_of_knows hserves hknows
        have hnext : (session.after request).OnScreen := Session.onScreen_handle hspec h request
        exact .after_request hknows hanswer (brings_serve hanswer) (ih hspec hnext)
      · obtain ⟨missing, hanswer⟩ := answer_of_not_knows hserves hknows
        exact .of_unknown hknows ((brings_serve_error hanswer).bind_error _)

/-! ## Loading, and the first screen -/

/-- On a bundle that is loaded a session starts on its initial screen and is shown. -/
theorem exists_greeting {disk : Disk} {path : String} {bundle : Bundle}
    (h : Bundle.load disk path none = .ok bundle) :
    ∃ session first, Session.start bundle.specification bundle.assets none = .ok session ∧
      session.snapshot = .ok first ∧ first.screenId = bundle.specification.initialScreen ∧
      session.specification.Connected ∧ session.OnScreen := by
  unfold Bundle.load at h
  simp only [bind_eq_ok_iff, mapError_eq_ok_iff, pure_eq_ok_iff] at h
  obtain ⟨places, _, document, _, spec, hresolve, assets, _, rfl⟩ := h
  have hstart := Document.start_initial hresolve assets
  obtain ⟨_, honScreen⟩ := Session.onScreen_start (connected_of_resolve hresolve) hstart
  obtain ⟨screen, _, hid, _, hsnapshot⟩ :=
    Session.snapshot_of_onScreen (connected_of_resolve hresolve) honScreen
  exact ⟨_, _, hstart, hsnapshot, hid, connected_of_resolve hresolve, honScreen⟩

/-- A bundle is the one that an argument of the commands stands for. -/
def Loads (disk : Disk) (home directory : Option String) (argument : String) (bundle : Bundle) :
    Prop :=
  ∃ place, (dataDirectory ⟨0, directory, none⟩ home).ended = .ok place ∧
    Bundle.load disk (Bundle.locate disk place argument) none = .ok bundle

theorem brings_dataDirectory (invocation : Invocation) (home : Option String) :
    (dataDirectory invocation home).Brings [] [] (dataDirectory invocation home).ended := by
  unfold dataDirectory
  cases invocation.dataDirectory with
  | some directory => exact Run.brings_pure directory
  | none => cases home <;> exact ⟨rfl, rfl, rfl⟩

theorem brings_openBundle (disk : Disk) (path : String) (initial : Option String) :
    (openBundle disk path initial).Brings [] [] ((Bundle.load disk path initial).mapError .bundle) :=
  (Run.brings_report _).andThen (Run.brings_check _ _)

theorem brings_startSession {bundle : Bundle} {screen : Option String} {session : Session}
    (h : Session.start bundle.specification bundle.assets screen = .ok session) :
    (startSession bundle screen).Brings [] [] (.ok session) := by
  unfold startSession
  rw [h, Run.check_ok_bind]
  exact (Run.brings_report _).andThen (Run.brings_pure session)

theorem brings_render {first : Snapshot} (h : session.snapshot = .ok first) :
    (render session).Brings [] [] (.ok first) := by
  unfold render
  rw [h]
  exact (Run.brings_report _).andThen (Run.brings_check _ _)

theorem brings_greet {disk : Disk} {path : String} {bundle : Bundle} {first : Snapshot}
    (hload : Bundle.load disk path none = .ok bundle)
    (hstart : Session.start bundle.specification bundle.assets none = .ok session)
    (hfirst : session.snapshot = .ok first) :
    (greet disk path none).Brings [first.write.compact] [] (.ok session) := by
  have hopen := brings_openBundle disk path none
  rw [hload] at hopen
  refine hopen.andThen ?_
  refine (brings_startSession hstart).andThen ?_
  refine (Run.brings_report _).andThen ?_
  refine (brings_render hfirst).andThen ?_
  exact (Run.brings_line _).bind (Run.brings_pure session)

/-! ## Commands -/

variable {disk : Disk} {home directory : Option String} {verbosity : Nat} {argument : String}
  {input : ByteArray}

theorem ended_openBundle_iff {path : String} {initial : Option String} {bundle : Bundle} :
    (openBundle disk path initial).ended = .ok bundle ↔ Bundle.load disk path initial = .ok bundle := by
  rw [(brings_openBundle disk path initial).ended, mapError_eq_ok_iff]

/-- A bundle that is loaded is counted. -/
theorem ended_checkBundle_iff {path : String} :
    (checkBundle disk path).ended = .ok () ↔ ∃ bundle, Bundle.load disk path none = .ok bundle := by
  unfold checkBundle
  simp only [Run.ended_bind_eq_ok_iff, ended_openBundle_iff]
  exact exists_congr fun bundle => and_iff_left rfl

/-- A bundle that is loaded is shown. -/
theorem ended_view_iff {path : String} :
    (view disk path none).ended = .ok () ↔ ∃ bundle, Bundle.load disk path none = .ok bundle := by
  unfold view
  simp only [Run.ended_bind_eq_ok_iff, ended_openBundle_iff]
  refine exists_congr fun bundle => and_iff_left_of_imp fun hload => ?_
  obtain ⟨session, first, hstart, hfirst, _⟩ := exists_greeting hload
  exact ⟨session, (brings_startSession hstart).ended, first, (brings_render hfirst).ended, rfl⟩

/-- A task without a session succeeds exactly if there is a data directory and what is done with it
succeeds. -/
theorem status_execute_iff {invocation : Invocation} {act : String → Run Unit}
    (h : prepare disk home invocation = (do
      let directory ← dataDirectory invocation home
      act directory
      return none)) :
    (execute disk home invocation input).status = 0 ↔
      ∃ place, (dataDirectory invocation home).ended = .ok place ∧ (act place).ended = .ok () := by
  rw [Run.status_eq_zero_iff]
  unfold execute
  simp only [h, Run.ended_bind_eq_ok_iff]
  constructor
  · rintro ⟨_, _, ⟨place, hplace, _, hact, _⟩, _⟩
    exact ⟨place, hplace, hact⟩
  · rintro ⟨place, hplace, hact⟩
    exact ⟨(), none, ⟨place, hplace, (), hact, rfl⟩, rfl⟩

theorem exists_loads_iff :
    (∃ bundle, Loads disk home directory argument bundle) ↔
      ∃ place, (dataDirectory ⟨0, directory, none⟩ home).ended = .ok place ∧
        ∃ bundle, Bundle.load disk (Bundle.locate disk place argument) none = .ok bundle := by
  unfold Loads
  constructor
  · rintro ⟨bundle, place, hplace, hload⟩
    exact ⟨place, hplace, bundle, hload⟩
  · rintro ⟨place, hplace, bundle, hload⟩
    exact ⟨bundle, place, hplace, hload⟩

theorem status_check_iff :
    (execute disk home ⟨verbosity, directory, some (.check argument)⟩ input).status = 0 ↔
      ∃ bundle, Loads disk home directory argument bundle := by
  rw [exists_loads_iff]
  refine (status_execute_iff rfl).trans (exists_congr fun place => and_congr_right' ?_)
  exact ended_checkBundle_iff

theorem status_view_iff :
    (execute disk home ⟨verbosity, directory, some (.view argument none)⟩ input).status = 0 ↔
      ∃ bundle, Loads disk home directory argument bundle := by
  rw [exists_loads_iff]
  refine (status_execute_iff rfl).trans (exists_congr fun place => and_congr_right' ?_)
  exact ended_view_iff

theorem converses_execute {bundle : Bundle} {first : Snapshot}
    (hload : Loads disk home directory argument bundle)
    (hstart : Session.start bundle.specification bundle.assets none = .ok session)
    (hfirst : session.snapshot = .ok first) (hspec : session.specification.Connected)
    (honScreen : session.OnScreen) (verbosity : Nat) (text : String) :
    session.Converses [first] ((Text.lines text).filterMap Request.onLine?)
      (execute disk home ⟨verbosity, directory, some (.run argument none)⟩ text.toUTF8) := by
  obtain ⟨place, hplace, hbundle⟩ := hload
  have hdirectory := brings_dataDirectory ⟨verbosity, directory, some (.run argument none)⟩ home
  have hsame : (dataDirectory ⟨verbosity, directory, some (.run argument none)⟩ home).ended =
      .ok place := hplace
  rw [hsame] at hdirectory
  have hprepare : (prepare disk home ⟨verbosity, directory, some (.run argument none)⟩).Brings
      [first.write.compact] [] (.ok (some session)) := by
    refine hdirectory.andThen ?_
    exact (brings_greet hbundle hstart hfirst).bind (Run.brings_pure _)
  refine .after_greeting hprepare ?_
  have hanswers := converses_answerAll hspec honScreen (Text.lines text)
  rw [← Text.linesOf_toUTF8] at hanswers
  exact hanswers.discard

theorem status_run_iff :
    (execute disk home ⟨verbosity, directory, some (.run argument none)⟩ .empty).status = 0 ↔
      ∃ bundle, Loads disk home directory argument bundle := by
  constructor
  · intro hstatus
    rw [Run.status_eq_zero_iff] at hstatus
    unfold execute prepare at hstatus
    simp only [Run.ended_bind_eq_ok_iff] at hstatus
    obtain ⟨_, _, ⟨place, hplace, _, hgreet, _⟩, _⟩ := hstatus
    unfold greet at hgreet
    simp only [Run.ended_bind_eq_ok_iff, ended_openBundle_iff] at hgreet
    obtain ⟨bundle, hload, _⟩ := hgreet
    exact ⟨bundle, place, hplace, hload⟩
  · rintro ⟨bundle, place, hplace, hload⟩
    obtain ⟨session, first, hstart, hfirst, _, hspec, honScreen⟩ := exists_greeting hload
    have hconverses := converses_execute ⟨place, hplace, hload⟩ hstart hfirst hspec honScreen
      verbosity ""
    exact hconverses.status

/-- **The commands agree.** A bundle is checked, viewed and run on no input with success in the same
cases. Then a run on a text shows the initial screen and goes through the requests on the lines of the
text, and it does not matter if lines without a request are deleted. Such a line brings nothing out and
leaves any session as it is. -/
theorem commands_agree (disk : Disk) (home directory : Option String) (verbosity : Nat)
    (argument : String) :
    let status := fun task input => (execute disk home ⟨verbosity, directory, some task⟩ input).status
    let run := fun text : String =>
      execute disk home ⟨verbosity, directory, some (.run argument none)⟩ text.toUTF8
    (∀ input, status (.check argument) input = 0 ↔ status (.view argument none) input = 0) ∧
    (∀ input, status (.check argument) input = 0 ↔ status (.run argument none) .empty = 0) ∧
    (∀ input, status (.check argument) input = 0 →
      ∃ bundle session first, Loads disk home directory argument bundle ∧
        Session.start bundle.specification bundle.assets none = .ok session ∧
        session.snapshot = .ok first ∧ first.screenId = bundle.specification.initialScreen ∧
        ∀ text,
          session.Converses [first] ((Text.lines text).filterMap Request.onLine?) (run text) ∧
          ∀ kept, Spares (Text.lines text) kept →
            (run (String.join kept)).lines = (run text).lines ∧
            (run (String.join kept)).status = (run text).status ∧
            ((run text).status = 0 → (run (String.join kept)).operations = (run text).operations)) ∧
    ∀ (session : Session) (line : String), Request.onLine? line = none →
      (answer session line.toUTF8).Brings [] [] (.ok session) := by
  intro status run
  refine ⟨fun input => ?_, fun input => ?_, fun input hcheck => ?_, fun session line hidle => ?_⟩
  · exact status_check_iff.trans status_view_iff.symm
  · exact status_check_iff.trans status_run_iff.symm
  · obtain ⟨bundle, hload⟩ := status_check_iff.1 hcheck
    obtain ⟨place, hplace, hbundle⟩ := hload
    obtain ⟨session, first, hstart, hfirst, hinitial, hspec, honScreen⟩ :=
      exists_greeting hbundle
    refine ⟨bundle, session, first, ⟨place, hplace, hbundle⟩, hstart, hfirst, hinitial, ?_⟩
    intro text
    have hconverses := converses_execute ⟨place, hplace, hbundle⟩ hstart hfirst hspec honScreen
      verbosity
    refine ⟨hconverses text, fun kept hkept => ?_⟩
    have hother := hconverses (String.join kept)
    rw [Text.lines_join hkept.sublist, hkept.requests] at hother
    exact (hconverses text).agree hother
  · exact brings_answer_idle session hidle

end Console

end ScreenFlow
