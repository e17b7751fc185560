import ScreenFlow.Proofs.Edits

/-!
# Two ways to start on another screen

A session starts on a screen other than the one its document asks for in two ways: the document is
resolved to start there, or it is resolved as it stands and the session is told where to start. The
first way never looks at the screen that the document asks for itself, the second way checks it.

1. Resolution meets the screen to start on in one of its checks only, and what it locks is otherwise
   the same (`violations_of_wellFormed`, `lookalike_of_resolve`).
2. So the second way fails where the first one does not exactly if the document asks to log in on a
   screen that is not there (`launch_eq_error_iff`).
3. Where both ways lead to a session, nothing tells the two sessions apart (`launch_agrees`).
-/

namespace ScreenFlow

/-- Why no session starts on a document. -/
inductive LaunchFault
  | unresolved (cause : ResolutionError)
  | missing (cause : ScreenNotFound)
  deriving DecidableEq

/-- Resolve a document and start a session on it. The screen to start on may be set for the
resolution, by `override`, or for the session alone, by `screen`. -/
def Document.launch (document : Document) (assets : Assets) (override screen : Option String) :
    Except LaunchFault Session := do
  let spec ← (document.resolve override).mapError .unresolved
  (Session.start spec assets screen).mapError .missing

namespace Document

variable {document : Document} {screen : String}

/-! ## Resolution with and without an override -/

theorem entry?_none_of_login {login : String} (h : document.loginScreen? = some login) :
    document.entry? none = some login := by
  rw [← entry?_eq]
  show (document.loginScreen? <|> _) = _
  rw [h]
  rfl

theorem entry?_none_of_no_login (h : document.loginScreen? = none) :
    document.entry? none = document.screens.head?.map Screen.id := by
  rw [← entry?_eq]
  show (document.loginScreen? <|> _) = _
  rw [h]
  rfl

/-- Of a document that is well-formed but for its own screen to start on, that screen is all that can
be wrong. -/
theorem violations_of_wellFormed {override : Option String} (h : document.WellFormed override)
    (initial : Option String) : document.violations initial = document.entryViolations initial := by
  have hnil := (document.violations_eq_nil_iff override).2 h
  simp only [violations, List.append_eq_nil_iff] at hnil
  obtain ⟨⟨⟨hids, _⟩, htransitions⟩, hrules⟩ := hnil
  simp only [violations, hids, htransitions, hrules, List.nil_append, List.append_nil]

/-- Without an override only a login screen can be missing: the first screen is there. -/
theorem entryViolations_none (h : document.WellFormed (some screen)) (error : ResolutionError) :
    (document.entryViolations none).head? = some error ↔
      ∃ login, document.loginScreen? = some login ∧ login ∉ document.screens.map Screen.id ∧
        error = .initialScreenNotFound login := by
  cases hlogin : document.loginScreen? with
  | some login =>
    have hentry := entry?_none_of_login hlogin
    by_cases hthere : login ∈ document.screens.map Screen.id
    · simp only [entryViolations, hentry, if_pos hthere, List.head?_nil, reduceCtorEq, false_iff]
      rintro ⟨other, hother, habsent, _⟩
      obtain rfl := Option.some.inj hother
      exact habsent hthere
    · simp only [entryViolations, hentry, if_neg hthere, List.head?_cons, Option.some.injEq]
      constructor
      · intro herror
        exact ⟨login, rfl, hthere, herror.symm⟩
      · rintro ⟨other, rfl, _, herror⟩
        exact herror.symm
  | none =>
    have hentry := entry?_none_of_no_login hlogin
    obtain ⟨first, hfirst, _⟩ := h.entry_exists
    cases hscreens : document.screens with
    | nil =>
      rw [hscreens] at hfirst
      cases hfirst
    | cons first rest =>
      rw [hscreens] at hentry
      simp [entryViolations, hentry, hscreens]

/-- What a document resolves to is told apart by nothing but the screen to start on. -/
theorem lookalike_of_resolve {override other : Option String} {spec copy : Specification}
    (hresolve : document.resolve override = .ok spec) (hcopy : document.resolve other = .ok copy) :
    copy.Lookalike spec :=
  (Alike.refl document).lookalike hresolve hcopy

/-! ## Launching -/

theorem launch_eq_ok_iff {assets : Assets} {override start : Option String} {session : Session} :
    document.launch assets override start = .ok session ↔
      ∃ spec, document.resolve override = .ok spec ∧
        Session.start spec assets start = .ok session := by
  unfold launch
  simp only [bind_eq_ok_iff, mapError_eq_ok_iff]

/-- A screen of the document can be started on, whatever the document asks for. -/
theorem start_of_resolve {override : Option String} {spec : Specification}
    (hresolve : document.resolve override = .ok spec)
    (hscreen : screen ∈ document.screens.map Screen.id) (assets : Assets) :
    Session.start spec assets (some screen) = .ok ⟨spec, assets, .initial screen⟩ := by
  rw [← (locksTo_of_resolve hresolve).screens] at hscreen
  obtain ⟨found, hfound⟩ := Specification.exists_screen_of_mem hscreen
  unfold Session.start
  simp only [Option.getD_some, hfound]
  rfl

/-- A document starts on the screen that it resolves to start on. -/
theorem start_initial {override : Option String} {spec : Specification}
    (hresolve : document.resolve override = .ok spec) (assets : Assets) :
    Session.start spec assets none = .ok ⟨spec, assets, .initial spec.initialScreen⟩ := by
  obtain ⟨first, hmem, hentry⟩ := (wellFormed_of_resolve hresolve).entry_exists
  have hlocks := (locksTo_of_resolve hresolve).initialScreen
  have hfirst : spec.initialScreen = first.id := Option.some.inj (hlocks.symm.trans hentry)
  have hthere : spec.initialScreen ∈ document.screens.map Screen.id := by
    rw [hfirst]
    exact List.mem_map_of_mem hmem
  exact start_of_resolve hresolve hthere assets

theorem mem_screens_of_wellFormed (h : document.WellFormed (some screen)) :
    screen ∈ document.screens.map Screen.id := by
  obtain ⟨found, hfound, hentry⟩ := h.entry_exists
  rw [Option.some.inj hentry]
  exact List.mem_map_of_mem hfound

/-- Resolved to start on a screen, a document starts there. -/
theorem launch_override (h : document.WellFormed (some screen)) (assets : Assets) :
    ∃ spec, document.resolve (some screen) = .ok spec ∧
      document.launch assets (some screen) none = .ok ⟨spec, assets, .initial screen⟩ := by
  obtain ⟨spec, hresolve⟩ := resolve_of_wellFormed h
  have hinitial : spec.initialScreen = screen :=
    (Option.some.inj (locksTo_of_resolve hresolve).initialScreen).symm
  have hstart := start_initial hresolve assets
  rw [hinitial] at hstart
  exact ⟨spec, hresolve, launch_eq_ok_iff.2 ⟨spec, hresolve, hstart⟩⟩

/-- A document that resolves to start on a screen is refused as it stands exactly if its login screen
is not there. -/
theorem launch_eq_error_iff (h : document.WellFormed (some screen)) (assets : Assets)
    (fault : LaunchFault) :
    document.launch assets none (some screen) = .error fault ↔
      ∃ login, document.loginScreen? = some login ∧ login ∉ document.screens.map Screen.id ∧
        fault = .unresolved (.initialScreenNotFound login) := by
  have hfails := document.failsFirst_resolve none
  rw [violations_of_wellFormed h] at hfails
  unfold launch
  cases hresolve : document.resolve none with
  | error error =>
    have hhead := (hfails error).1 hresolve
    obtain ⟨login, hlogin, habsent, rfl⟩ := (entryViolations_none h error).1 hhead
    show Except.error (LaunchFault.unresolved (.initialScreenNotFound login)) = .error fault ↔ _
    rw [Except.error.injEq]
    constructor
    · intro hfault
      exact ⟨login, hlogin, habsent, hfault.symm⟩
    · rintro ⟨other, hother, _, rfl⟩
      rw [hlogin] at hother
      rw [Option.some.inj hother]
  | ok spec =>
    have hstart := start_of_resolve hresolve (mem_screens_of_wellFormed h) assets
    show (Session.start spec assets (some screen)).mapError _ = _ ↔ _
    rw [hstart]
    constructor
    · intro herror
      cases herror
    · rintro ⟨login, hlogin, habsent, rfl⟩
      have hhead := (entryViolations_none h _).2 ⟨login, hlogin, habsent, rfl⟩
      rw [(hfails _).2 hhead] at hresolve
      cases hresolve

/-- A document that starts on a screen as it stands resolves to start there. -/
theorem wellFormed_of_launch {assets : Assets} {session : Session}
    (h : document.launch assets none (some screen) = .ok session) :
    document.WellFormed (some screen) := by
  obtain ⟨spec, hresolve, hstart⟩ := launch_eq_ok_iff.1 h
  have hformed := wellFormed_of_resolve hresolve
  have hconnected := distinctIds_of_resolve hresolve
  obtain ⟨found, hfound, _⟩ := bind_eq_ok_iff.1 hstart
  have hmem := Specification.mem_of_screen_eq_ok hfound
  have hid := Specification.id_of_screen_eq_ok hconnected.indexFits hfound
  rw [(locksTo_of_resolve hresolve).screens] at hmem
  exact ⟨hformed.screens_distinct, hformed.components_distinct,
    ⟨found, hmem, congrArg some hid.symm⟩, hformed.transitions_exist, hformed.rules_exist⟩

/-- **Two ways to start on a screen.** Where a session told to start on a screen does so, the document
also resolves to start there, in the same state, and the two sessions have the same turns whatever is
requested. Where only the document resolved to start there does, its login screen is not among its
screens, and that is what the other way fails with. -/
theorem launch_agrees (document : Document) (assets : Assets) (screen : String) :
    (∀ session, document.launch assets none (some screen) = .ok session →
      ∃ other, document.launch assets (some screen) none = .ok other ∧
        other.state = session.state ∧
        ∀ requests, other.turns requests = session.turns requests) ∧
    ∀ other, document.launch assets (some screen) none = .ok other → ∀ fault,
      document.launch assets none (some screen) = .error fault ↔
        ∃ login, document.loginScreen? = some login ∧ login ∉ document.screens.map Screen.id ∧
          fault = .unresolved (.initialScreenNotFound login) := by
  constructor
  · intro session hlaunch
    obtain ⟨copy, hcopy, hother⟩ := launch_override (wellFormed_of_launch hlaunch) assets
    obtain ⟨spec, hresolve, hstart⟩ := launch_eq_ok_iff.1 hlaunch
    obtain rfl := Session.eq_of_start hstart
    have hlike := (lookalike_of_resolve hresolve hcopy).servesLike
    refine ⟨_, hother, rfl, fun requests => ?_⟩
    have hturns := @Session.map_turns_withSpecification _ id copy spec hlike
      (fun _ _ => congrArg Turn.state) ⟨spec, assets, .initial screen⟩ rfl requests
    rw [List.map_id, List.map_id] at hturns
    exact hturns
  · intro other hother fault
    obtain ⟨spec, hresolve, _⟩ := launch_eq_ok_iff.1 hother
    exact launch_eq_error_iff (wellFormed_of_resolve hresolve) assets fault

end Document

end ScreenFlow
