import ScreenFlow.Proofs.Assets.Document
import ScreenFlow.Proofs.Command.Conversation

/-!
# Viewing a bundle and its document

A view brings out the snapshot of what is loaded, or nothing (`Console.brings_view`). What is loaded of
a bundle directory and of the document in it differs in the assets only (`Bundle.load_directory`,
`Bundle.load_file`, `Bundle.specification_document`), and a screen whose images have near references is
shown alike with either (`Session.snapshot_congr`).
-/

namespace ScreenFlow

/-! ## Screens shown with other assets -/

theorem View.ofComponent_assets {component : Component} {assets others : Assets} (state : State)
    (h : ∀ image, component.image? = some image → image.source others = image.source assets) :
    ofComponent component state others = ofComponent component state assets := by
  unfold Component.image? at h
  unfold ofComponent
  cases hkind : component.kind with
  | image value =>
    simp only [hkind] at h ⊢
    rw [h value rfl]
  | textField _ => rfl
  | button _ => rfl
  | text _ => rfl
  | spacer _ => rfl
  | table _ => rfl
  | unknown => rfl

theorem Snapshot.ofScreen_assets {screen : Screen} {assets others : Assets} (state : State)
    (h : ∀ component ∈ screen.components, ∀ image, component.image? = some image →
      image.source others = image.source assets) :
    ofScreen screen state others = ofScreen screen state assets := by
  unfold ofScreen
  rw [List.map_congr_left fun component hcomponent => View.ofComponent_assets state (h component hcomponent)]

/-- Sessions with different assets show the same if they show the images of the active screen alike. -/
theorem Session.snapshot_congr {session : Session} {others : Assets}
    (h : ∀ screen, session.activeScreen = .ok screen → ∀ component ∈ screen.components,
      ∀ image, component.image? = some image → image.source others = image.source session.assets) :
    Session.snapshot { session with assets := others } = session.snapshot := by
  have hactive : activeScreen { session with assets := others } = session.activeScreen := rfl
  unfold snapshot
  rw [hactive]
  cases hscreen : session.activeScreen with
  | error => rfl
  | ok screen => exact congrArg Except.ok (Snapshot.ofScreen_assets _ (h screen hscreen))

namespace Console

variable {disk : Disk} {path other : String} {screen : Option String}

/-! ## Views -/

/-- What is shown of a bundle. -/
def shownOf (bundle : Bundle) (screen : Option String) : Except Failure Snapshot := do
  let session ← (Session.start bundle.specification bundle.assets screen).mapError .start
  session.snapshot.mapError .render

/-- What is shown of the bundle at a path. -/
def shown (disk : Disk) (path : String) (screen : Option String) : Except Failure Snapshot := do
  let bundle ← (Bundle.load disk path none).mapError .bundle
  shownOf bundle screen

/-- The lines that show a snapshot; none if there is none. -/
def shownLines : Except Failure Snapshot → List String
  | .ok snapshot => [snapshot.write.pretty]
  | .error _ => []

theorem brings_shownOf (bundle : Bundle) (screen : Option String) :
    (do
      let session ← startSession bundle screen
      let snapshot ← render session
      .emit [.line snapshot.write.pretty] : Run Unit).Brings (shownLines (shownOf bundle screen)) []
      ((shownOf bundle screen).map fun _ => ()) := by
  unfold shownOf
  cases hstart : Session.start bundle.specification bundle.assets screen with
  | error missing =>
    unfold startSession
    rw [hstart]
    exact ((Run.brings_check Failure.start (.error missing)).bind_error _).bind_error _
  | ok session =>
    refine (brings_startSession hstart).andThen ?_
    show Run.Brings _ (shownLines (session.snapshot.mapError .render)) []
      ((session.snapshot.mapError .render).map fun _ => ())
    cases hsnapshot : session.snapshot with
    | error missing =>
      unfold render
      rw [hsnapshot]
      exact ((Run.brings_report _).andThen
        (Run.brings_check Failure.render (.error missing))).bind_error _
    | ok snapshot => exact (brings_render hsnapshot).andThen (Run.brings_line _)

/-- A view brings out what is shown of the bundle. -/
theorem brings_view (disk : Disk) (path : String) (screen : Option String) :
    (view disk path screen).Brings (shownLines (shown disk path screen)) []
      ((shown disk path screen).map fun _ => ()) := by
  have hopen := brings_openBundle disk path none
  unfold view shown
  cases hload : Bundle.load disk path none with
  | error fault =>
    rw [hload] at hopen
    exact hopen.bind_error _
  | ok bundle =>
    rw [hload] at hopen
    exact hopen.andThen (brings_shownOf bundle screen)

/-- What an invocation that views the bundle at a path brings out, if something is there. -/
theorem brings_execute_view (home directory : Option String) (verbosity : Nat) (input : ByteArray)
    {place : String} (hplace : (dataDirectory ⟨0, directory, none⟩ home).ended = .ok place)
    (hpath : disk.has path = true) (screen : Option String) :
    (execute disk home ⟨verbosity, directory, some (.view path screen)⟩ input).Brings
      (shownLines (shown disk path screen)) [] ((shown disk path screen).map fun _ => ()) := by
  have hdirectory := brings_dataDirectory ⟨verbosity, directory, some (.view path screen)⟩ home
  have hsame : (dataDirectory ⟨verbosity, directory, some (.view path screen)⟩ home).ended =
      .ok place := hplace
  rw [hsame] at hdirectory
  have hlocate : Bundle.locate disk place path = path := by
    unfold Bundle.locate
    rw [hpath]
    rfl
  have hprepare : prepare disk home ⟨verbosity, directory, some (.view path screen)⟩ = (do
      let place ← dataDirectory ⟨verbosity, directory, some (.view path screen)⟩ home
      view disk (Bundle.locate disk place path) screen
      return none) := rfl
  have hprepared : (prepare disk home ⟨verbosity, directory, some (.view path screen)⟩).Brings
      (shownLines (shown disk path screen)) []
      (((shown disk path screen).map fun _ => ()).map fun _ => none) := by
    rw [hprepare]
    refine hdirectory.andThen ?_
    rw [hlocate]
    exact (brings_view disk path screen).replace none
  unfold execute
  cases hshown : shown disk path screen with
  | error failure =>
    rw [hshown] at hprepared
    exact hprepared.bind_error _
  | ok snapshot =>
    rw [hshown] at hprepared
    exact hprepared.bind (Run.brings_pure ())

/-- Invocations that view two paths bring out the same if the same is shown of them. -/
theorem execute_view_congr (home directory : Option String) (verbosity : Nat) (input : ByteArray)
    (hpath : disk.has path = true) (hother : disk.has other = true)
    (h : shown disk other screen = shown disk path screen) :
    let view := fun path =>
      execute disk home ⟨verbosity, directory, some (.view path screen)⟩ input
    (view other).lines = (view path).lines ∧ (view other).ended = (view path).ended := by
  intro view
  cases hplace : (dataDirectory ⟨0, directory, none⟩ home).ended with
  | ok place =>
    have hfirst := brings_execute_view home directory verbosity input hplace hpath screen
    have hsecond := brings_execute_view home directory verbosity input hplace hother screen
    rw [h] at hsecond
    exact ⟨hsecond.lines.trans hfirst.lines.symm, hsecond.ended.trans hfirst.ended.symm⟩
  | error failure =>
    have hfails : ∀ path, (view path).Brings [] [] (.error failure) := by
      intro path
      have hdirectory := brings_dataDirectory ⟨verbosity, directory, some (.view path screen)⟩ home
      have hsame : (dataDirectory ⟨verbosity, directory, some (.view path screen)⟩ home).ended =
          .error failure := hplace
      rw [hsame] at hdirectory
      exact (hdirectory.bind_error _).bind_error _
    exact ⟨(hfails other).lines.trans (hfails path).lines.symm,
      (hfails other).ended.trans (hfails path).ended.symm⟩

end Console

/-! ## A bundle and its document -/

namespace Bundle

/-- What a document says, read and resolved. -/
def Places.specification (places : Places) : Except BundleFault Specification := do
  let document ← places.read
  (document.resolve none).mapError .unresolved

theorem Places.specification_congr {places others : Places}
    (hdocument : others.document = places.document) (htext : others.text = places.text) :
    others.specification = places.specification := by
  unfold specification read
  rw [hdocument, htext]

variable {disk : Disk} {path : String} {node : Node}

theorem load_of_assets {assets : Assets} {search : Assets.Search} {assetRoot : String}
    (hpath : disk path = .ok node) (hsearch : (places path node).search = search)
    (hassetRoot : (places path node).assetRoot = assetRoot)
    (hassets : Assets.load disk search assetRoot = .ok assets) :
    load disk path none =
      (places path node).specification.map fun specification => ⟨specification, assets⟩ := by
  have hplaces : placesAt disk path = .ok (places path node) := by
    unfold placesAt
    rw [hpath]
    rfl
  unfold load Places.specification
  rw [hplaces]
  show (do
    let document ← (places path node).read
    let specification ← (document.resolve none).mapError .unresolved
    let assets ← (Assets.load disk (places path node).search (places path node).assetRoot).mapError
      .assets
    return ⟨specification, assets⟩ : Except BundleFault Bundle) = _
  rw [hsearch, hassetRoot, hassets]
  cases (places path node).read with
  | error fault => rfl
  | ok document =>
    show (do
      let specification ← (document.resolve none).mapError .unresolved
      return ⟨specification, assets⟩ : Except BundleFault Bundle) =
        ((document.resolve none).mapError .unresolved).map _
    cases document.resolve none <;> rfl

theorem load_directory {entries : Entries} {assets : Assets}
    (hpath : disk path = .ok (.directory entries))
    (hassets : Assets.load disk .bundle path = .ok assets) :
    load disk path none =
      (places path (.directory entries)).specification.map fun specification =>
        ⟨specification, assets⟩ := by
  have hsearch : (places path (.directory entries)).search = .bundle := by rw [places]
  have hassetRoot : (places path (.directory entries)).assetRoot = path := by rw [places]
  exact load_of_assets hpath hsearch hassetRoot hassets

theorem load_file {content : ByteArray} {assets : Assets} (hpath : disk path = .ok (.file content))
    (hassets : Assets.load disk .document (assetDirectory path) = .ok assets) :
    load disk path none =
      (places path (.file content)).specification.map fun specification => ⟨specification, assets⟩ := by
  have hsearch : (places path (.file content)).search = .document := by rw [places]
  have hassetRoot : (places path (.file content)).assetRoot = assetDirectory path := by rw [places]
  exact load_of_assets hpath hsearch hassetRoot hassets

theorem documentName_isEntryName : Node.IsEntryName documentName where
  nonempty := by decide
  not_here := by decide
  not_above := by decide
  short := by decide
  plain := by decide

variable {top : Node} {here root : String} {entries : Entries} {content : ByteArray}

/-- A bundle directory says what the document in it says. -/
theorem specification_document (hroot : Disk.ofTree top here root = .ok (.directory entries))
    (hdocument : Disk.ofTree top here (Path.join root documentName) = .ok (.file content)) :
    (places (Path.join root documentName) (.file content)).specification =
      (places root (.directory entries)).specification := by
  obtain ⟨hshort, hentry⟩ :=
    (Disk.ofTree_join_iff documentName_isEntryName hroot).1 hdocument
  refine Places.specification_congr rfl ?_
  unfold places
  simp only [if_neg hshort, Entries.named?, hentry]

end Bundle

namespace Console

variable {disk : Disk} {screen : Option String} {specification : Specification}
  {bundle document : Assets}

/-- All images of the screen that is shown of the bundle at a path have near references. -/
def ShowsNear (disk : Disk) (path : String) (screen : Option String) : Prop :=
  ∀ bundle session active, Bundle.load disk path none = .ok bundle →
    Session.start bundle.specification bundle.assets screen = .ok session →
    session.activeScreen = .ok active →
    ∀ component ∈ active.components, ∀ image, component.image? = some image → image.Near

theorem shownOf_congr
    (h : ∀ session active, Session.start specification bundle screen = .ok session →
      session.activeScreen = .ok active → ∀ component ∈ active.components,
        ∀ image, component.image? = some image → image.source document = image.source bundle) :
    shownOf ⟨specification, document⟩ screen = shownOf ⟨specification, bundle⟩ screen := by
  have hstart : Session.start specification document screen =
      (Session.start specification bundle screen).map fun session =>
        { session with assets := document } := by
    unfold Session.start
    dsimp only
    cases specification.screen (screen.getD specification.initialScreen) <;> rfl
  unfold shownOf
  simp only [hstart]
  cases hsession : Session.start specification bundle screen with
  | error missing => rfl
  | ok session =>
    have hassets : session.assets = bundle := by
      unfold Session.start at hsession
      obtain ⟨_, _, hsame⟩ := bind_eq_ok_iff.1 hsession
      obtain rfl := pure_eq_ok_iff.1 hsame
      rfl
    have hsnapshot : Session.snapshot { session with assets := document } = session.snapshot :=
      Session.snapshot_congr fun active hactive component hcomponent image himage => by
        rw [hassets]
        exact h session active hsession hactive component hcomponent image himage
    exact congrArg (·.mapError Failure.render) hsnapshot

variable {top : Node} {here root : String} {entries : Entries} {content : ByteArray}

/-- Of a bundle directory the same is shown as of the document in it, if near assets are the same. -/
theorem shown_document {disk : Disk} (hdisk : disk = Disk.ofTree top here)
    (hroot : disk root = .ok (.directory entries))
    (hdocument : disk (Path.join root Bundle.documentName) = .ok (.file content))
    (hbundleAssets : Assets.load disk .bundle root = .ok bundle)
    (hdocumentAssets : Assets.load disk .document
      (Bundle.assetDirectory (Path.join root Bundle.documentName)) = .ok document)
    (hrestricts : ∀ key text, document.get? key = some text ↔
      Assets.Near key ∧ bundle.get? key = some text)
    (hnear : ShowsNear disk root screen) :
    shown disk (Path.join root Bundle.documentName) screen = shown disk root screen := by
  have hbundle := Bundle.load_directory hroot hbundleAssets
  have hother := Bundle.load_file hdocument hdocumentAssets
  subst hdisk
  rw [Bundle.specification_document hroot hdocument] at hother
  unfold shown
  rw [hbundle, hother]
  cases hspecification : (Bundle.places root (.directory entries)).specification with
  | error fault => rfl
  | ok specification =>
    rw [hspecification] at hbundle
    refine shownOf_congr fun session active hsession hactive component hcomponent image himage => ?_
    exact Image.source_congr
      (hnear _ session active hbundle hsession hactive component hcomponent image himage) hrestricts

/-- **Bundles and documents.** The assets of a document fail to load exactly if it stands in no
directory, if the image directory is a file that can be reached, or if the path of a directory there is
too long or an asset at one of the places that are searched cannot be read. Where they load and those
of the bundle around it too, they are the near ones of the bundle, so near references are shown alike;
and a view of the document in a bundle brings out what a view of the bundle does, if all images that
are shown have near references. -/
theorem document_agrees_with_bundle (here : String) (htop : top.Proper) {node : Node}
    (hroot : Disk.ofTree top here root = .ok node) :
    let disk := Disk.ofTree top here
    let images := Path.join root imageDirectory
    ((∃ fault, Assets.load disk .document root = .error fault) ↔
      node.isFile ∨
      (¬ Path.isLong images ∧
        ((∃ content, node.LeadsTo [imageEntry] (.file content)) ∨
        ∃ names inner, names ≠ [] ∧ node.LeadsTo (imageEntry :: names) (.directory inner) ∧
          Path.isLongBelow root (imageEntry :: names))) ∨
      ∃ names content, node.HasAsset names content ∧ Assets.Searched root names ∧
        Assets.Unreadable root names content) ∧
    ∀ bundle document, Assets.load disk .bundle root = .ok bundle →
      Assets.load disk .document root = .ok document →
      (∀ key text, document.get? key = some text ↔
        Assets.Near key ∧ bundle.get? key = some text) ∧
      (∀ image : Image, image.Near → image.source document = image.source bundle) ∧
      ∀ content, disk (Path.join root Bundle.documentName) = .ok (.file content) →
        (Path.isLong images → ∀ plain, ¬ node.LeadsTo [imageEntry] (.file plain)) →
        ∀ screen, ShowsNear disk root screen → ∀ home directory verbosity input,
          let view := fun path =>
            execute disk home ⟨verbosity, directory, some (.view path screen)⟩ input
          (view (Path.join root Bundle.documentName)).lines = (view root).lines ∧
            (view (Path.join root Bundle.documentName)).ended = (view root).ended := by
  intro disk images
  have hproper : node.Proper := Node.walk_proper htop (fun _ hnever => absurd hnever List.not_mem_nil)
    (Disk.ofTree_eq_ok_iff.1 hroot).2.2
  rw [Assets.load_bundle hroot, Assets.load_document hroot]
  refine ⟨Assets.ofDocument_error_iff hproper, fun bundle document hbundle hdocument => ?_⟩
  have hrestricts := Assets.get?_ofDocument_eq_some_iff hproper (Nat.le_refl _) hbundle hdocument
  refine ⟨hrestricts, fun image hnear => Image.source_congr hnear hrestricts, ?_⟩
  intro content hcontent hreached screen hnear home directory verbosity input
  cases node with
  | file => cases hbundle
  | directory entries =>
    -- the document is reached by a path of its own, which may be spelled shorter than the root
    have hnonempty : root ≠ "" := (Disk.ofTree_eq_ok_iff.1 hroot).1
    have hsize := Path.size_join_trimmed_le hnonempty
    obtain ⟨other, hother⟩ :=
      Assets.exists_ofDocument_of_size_le hproper hsize hbundle hdocument hreached
    have hassets : Assets.load disk .document
        (Bundle.assetDirectory (Path.join root Bundle.documentName)) = .ok other := by
      rw [Path.assetDirectory_join hnonempty Bundle.documentName_isEntryName.plain,
        Assets.load_document (Disk.ofTree_trimmed hroot)]
      exact hother
    have hbundleAssets : Assets.load disk .bundle root = .ok bundle := by
      rw [Assets.load_bundle hroot]
      exact hbundle
    have hhas : ∀ {path found}, disk path = .ok found → disk.has path = true := by
      intro path found hpath
      unfold Disk.has
      rw [hpath]
      rfl
    refine execute_view_congr home directory verbosity input (hhas hroot) (hhas hcontent) ?_
    exact shown_document rfl hroot hcontent hbundleAssets hassets
      (Assets.get?_ofDocument_eq_some_iff hproper hsize hbundle hother) hnear

/-! ## Trees at both ends -/

/-- A bundle with a screen that shows an asset, and an asset of that name that no screen can refer to by
a near reference. -/
def pictureForm : Node :=
  .directory
    [(Bundle.documentName.toUTF8, .file
        "\x7b\"screens\":[\x7b\"id\":\"start\",\"components\":[\x7b\"id\":\"logo\",\"type\":\"image\",\"file\":\"logo.b64.txt\"\x7d]\x7d]\x7d".toUTF8),
      ("logo.b64.txt".toUTF8, .file "TE9HTw==".toUTF8),
      ("drafts".toUTF8, .directory [("logo.b64.txt".toUTF8, .file "T0xE".toUTF8)])]

theorem pictureForm_proper : pictureForm.Proper := by
  refine .directory (by decide) (by decide) ?_
  refine List.forall_mem_cons.2 ⟨.file _, List.forall_mem_cons.2 ⟨.file _, ?_⟩⟩
  refine List.forall_mem_singleton.2 (.directory (by decide) (by decide) ?_)
  exact List.forall_mem_singleton.2 (.file _)

theorem pictureForm_showsNear : ShowsNear (Disk.ofTree pictureForm "/") "." none := by
  have hcheck : ((Bundle.load (Disk.ofTree pictureForm "/") "." none).toOption.all fun bundle =>
      (Session.start bundle.specification bundle.assets none).toOption.all fun session =>
        session.activeScreen.toOption.all fun active => active.components.all fun component =>
          component.image?.all fun image => image.file = some "logo.b64.txt") = true := by
    decide +kernel
  intro bundle session active hload hstart hactive component hcomponent image himage
  simp only [hload, hstart, hactive, Except.toOption, Option.all_some, List.all_eq_true] at hcheck
  have hlogo := hcheck component hcomponent
  rw [himage, Option.all_some, decide_eq_true_eq] at hlogo
  intro file hfile _
  obtain rfl : "logo.b64.txt" = file := Option.some.inj (hlogo.symm.trans hfile)
  exact .inl (by decide +kernel)

theorem document_agrees_with_bundle_pictureForm :
    let disk := Disk.ofTree pictureForm "/"
    let view := fun path => execute disk none ⟨0, some "/", some (.view path none)⟩ .empty
    pictureForm.Proper ∧ disk "." = .ok pictureForm ∧ ShowsNear disk "." none ∧
      (view "./bundle.json").lines = (view ".").lines ∧ (view ".").lines ≠ [] := by
  intro disk view
  have hroot : disk "." = .ok pictureForm :=
    Disk.ofTree_of_idle (by decide +kernel) (by decide +kernel) (by decide +kernel)
  have hpath : Path.join "." Bundle.documentName = "./bundle.json" := by decide +kernel
  have hbundle : (Assets.load disk .bundle ".").isOk = true := by decide +kernel
  have hdocument : (Assets.load disk .document ".").isOk = true := by decide +kernel
  have hlines : (view ".").lines ≠ [] := by decide +kernel
  refine ⟨pictureForm_proper, hroot, pictureForm_showsNear, ?_, hlines⟩
  cases hbundleAssets : Assets.load disk .bundle "." with
  | error => rw [hbundleAssets] at hbundle; cases hbundle
  | ok bundle =>
    cases hdocumentAssets : Assets.load disk .document "." with
    | error => rw [hdocumentAssets] at hdocument; cases hdocument
    | ok document =>
      have hagrees := (document_agrees_with_bundle "/" pictureForm_proper hroot).2 bundle document
        hbundleAssets hdocumentAssets
      have hcontent := (Disk.ofTree_join_iff Bundle.documentName_isEntryName hroot).2 ⟨by decide +kernel, List.lookup_cons_self⟩
      have hviews := hagrees.2.2 _ hcontent (fun hlong => absurd hlong (by decide +kernel)) none
        pictureForm_showsNear none (some "/") 0 .empty
      rw [hpath] at hviews
      exact hviews.1

/-- A document's assets may fail to load though it stands in a directory and all its assets are texts. -/
theorem longNamed_stops_document :
    let root := Assets.dotted 1970
    let disk := Disk.ofTree Assets.longNamed "/"
    disk root = .ok Assets.longNamed ∧ Assets.longNamed.Proper ∧
      (∃ fault, Assets.load disk .document root = .error fault) ∧
      ¬ (Assets.longNamed.isFile ∨
        (∃ content, Assets.longNamed.LeadsTo [imageEntry] (.file content)) ∨
        ∃ names content, Assets.longNamed.HasAsset names content ∧
          String.fromUTF8? content = none) := by
  intro root disk
  have hroot : disk root = .ok Assets.longNamed := Assets.ofTree_dotted (by decide) (by decide)
  refine ⟨hroot, Assets.longNamed_proper, ?_, ?_⟩
  · rw [Assets.load_document hroot]
    exact (Assets.ofDocument_error_iff Assets.longNamed_proper).2 (.inr (.inr
      ⟨_, _, Assets.longNamed_hasAsset, .inl rfl, Assets.unreadable_dotted (by decide) (by decide)⟩))
  · rintro (hfile | ⟨content, hcontent⟩ | ⟨names, content, hasset, hgarbled⟩)
    · cases hfile
    · obtain ⟨next, hentry, _⟩ := Node.leadsTo_directory_iff.1 hcontent
      have hsame : imageEntry = Assets.longName.toUTF8 :=
        congrArg Prod.fst (List.mem_singleton.1 hentry)
      have hsize : imageDirectory.utf8ByteSize = 255 := by
        rw [Text.toUTF8_injective hsame, Assets.size_longName]
      exact absurd hsize (by decide)
    · exact Assets.longNamed_isText hasset hgarbled

end Console

end ScreenFlow
