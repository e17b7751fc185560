import ScreenFlow.Proofs.Assets.Bundle
import ScreenFlow.Proofs.FileTree.Walk

/-!
# The assets of a document

The assets of a document that stands alone are the ones next to it and the ones below the image
directory (`Assets.get?_ofDocument`). Next to a bundle they are those of its assets whose paths are
near (`Assets.get?_ofDocument_eq_some_iff`), so near references are shown alike
(`Image.source_congr`).
-/

namespace ScreenFlow

/-- The name of the image directory, as it is listed. -/
def imageEntry : ByteArray := imageDirectory.toUTF8

namespace Assets

/-- A path is near: it is a name alone, or one in the image directory. -/
def Near (path : String) : Prop := '/' ∉ path.toList ∨ path.startsWith (imageDirectory ++ "/")

/-- Where the assets of a document are searched for: next to it, and in the image directory, if its
path is not too long to be looked up. -/
def Searched (root : String) (names : List String) : Prop :=
  names.length = 1 ∨ names.head? = some imageDirectory ∧ ¬ Path.isLong (Path.join root imageDirectory)

variable {root other : String} {node : Node} {entries : Entries} {names : List ByteArray}
  {found : Node}

theorem imageDirectory_plain : '/' ∉ imageDirectory.toList := by decide

theorem isLongBelow_imageEntry (root : String) :
    Path.isLongBelow root [imageEntry] = Path.isLong (Path.join root imageDirectory) :=
  Path.isLongBelow_singleton root imageDirectory_plain

/-- The path of some names is near exactly if it is one name, or goes on from the image directory. -/
theorem near_iff {names : List String} (hnonempty : names ≠ [])
    (hplain : ∀ name ∈ names, '/' ∉ name.toList) :
    Near ("/".intercalate names) ↔
      names.length = 1 ∨ ∃ rest, rest ≠ [] ∧ names = imageDirectory :: rest := by
  unfold Near
  rw [String.startsWith_string_iff, String.toList_append]
  constructor
  · rintro (hslash | ⟨behind, hbehind⟩)
    · left
      rcases names with _ | ⟨name, _ | ⟨next, rest⟩⟩
      · exact absurd rfl hnonempty
      · rfl
      · refine absurd ?_ hslash
        rw [Path.toList_intercalate_cons_cons]
        exact List.mem_append_right _ List.mem_cons_self
    · right
      have hcomponents : Path.components ("/".intercalate names) =
          imageDirectory :: (Path.componentChars behind).map String.ofList := by
        unfold Path.components
        rw [← hbehind, List.append_assoc]
        show (Path.componentChars (imageDirectory.toList ++ '/' :: behind)).map String.ofList = _
        rw [Path.componentChars_append, Path.componentChars_of_plain imageDirectory_plain,
          List.singleton_append, List.map_cons, String.ofList_toList]
      rw [Path.components_intercalate hnonempty hplain] at hcomponents
      refine ⟨_, fun hnil => ?_, hcomponents⟩
      exact Path.componentChars_ne_nil behind (List.map_eq_nil_iff.1 hnil)
  · rintro (hone | ⟨_ | ⟨name, rest⟩, hrest, rfl⟩)
    · left
      obtain ⟨name, rfl⟩ := List.length_eq_one_iff.1 hone
      rw [String.intercalate_singleton]
      exact hplain name List.mem_cons_self
    · exact absurd rfl hrest
    · right
      rw [String.intercalate_cons_cons, String.toList_append, String.toList_append]
      exact List.prefix_append _ _

/-! ## What is found for a document -/

theorem mem_files_iff : (names, found) ∈ entries.files ↔
    names.length = 1 ∧ found.isFile ∧ (Node.directory entries).LeadsTo names found := by
  unfold Entries.files
  rw [Entries.mem_descendants_iff]
  cases names with
  | nil => simp
  | cons name rest =>
    simp only [Node.leadsTo_directory_iff, List.mem_filter]
    constructor
    · rintro ⟨_, next, ⟨hentry, hfile⟩, hleads⟩
      cases hleads with
      | here => exact ⟨rfl, hfile, _, hentry, .here _⟩
      | enter => cases hfile
    · rintro ⟨hone, hfile, next, hentry, hleads⟩
      obtain rfl : rest = [] := List.length_eq_zero_iff.1 (Nat.succ.inj hone)
      obtain rfl := Node.leadsTo_nil_iff.1 hleads
      exact ⟨List.cons_ne_nil _ _, found, ⟨hentry, hfile⟩, .here _⟩

/-- What the image directory holds is listed, unless its path is too long or it is no directory. -/
theorem images_eq (root : String) (entries : Entries) :
    images root entries =
      if Path.isLong (Path.join root imageDirectory) then .ok []
      else
        (entries.lookup imageEntry).elim (.ok []) fun node =>
          (entriesAt (Path.join root imageDirectory) node).map fun inner =>
            (Node.directory inner).descendants.map fun found => (imageEntry :: found.1, found.2) := by
  unfold images
  by_cases hlong : Path.isLong (Path.join root imageDirectory) = true
  · simp only [if_pos hlong]
    rfl
  · simp only [if_neg hlong]
    rw [show entries.named? imageDirectory = entries.lookup imageEntry from rfl]
    cases entries.lookup imageEntry with
    | none => rfl
    | some node => cases node <;> rfl

theorem leadsTo_imageEntry_iff (hproper : (Node.directory entries).Proper) {rest : List ByteArray} :
    (Node.directory entries).LeadsTo (imageEntry :: rest) found ↔
      ∃ next, entries.lookup imageEntry = some next ∧ next.LeadsTo rest found := by
  cases hproper with
  | directory distinct _ _ =>
    rw [Node.leadsTo_directory_iff]
    refine exists_congr fun next => and_congr_left fun _ => ?_
    exact ⟨Node.lookup_of_mem distinct, Node.mem_of_lookup⟩

theorem images_error_iff (hproper : (Node.directory entries).Proper) :
    (∃ fault, images root entries = .error fault) ↔
      ¬ Path.isLong (Path.join root imageDirectory) ∧
        ∃ content, (Node.directory entries).LeadsTo [imageEntry] (.file content) := by
  simp only [leadsTo_imageEntry_iff hproper, Node.leadsTo_nil_iff]
  rw [images_eq]
  by_cases hlong : Path.isLong (Path.join root imageDirectory) = true
  · simp [hlong]
  · cases entries.lookup imageEntry with
    | none => simp [hlong]
    | some node => cases node <;> simp [hlong, entriesAt, Node.entries, Except.mapError, Except.map]

theorem mem_images_iff (hproper : (Node.directory entries).Proper)
    {listed : List (List ByteArray × Node)} (h : images root entries = .ok listed) :
    (names, found) ∈ listed ↔
      ¬ Path.isLong (Path.join root imageDirectory) ∧
        ∃ rest, rest ≠ [] ∧ names = imageEntry :: rest ∧
          (Node.directory entries).LeadsTo names found := by
  rw [images_eq] at h
  by_cases hlong : Path.isLong (Path.join root imageDirectory) = true
  · rw [if_pos hlong] at h
    obtain rfl := Except.ok.inj h
    simp [hlong]
  · rw [if_neg hlong] at h
    have hbelow : (∃ rest, rest ≠ [] ∧ names = imageEntry :: rest ∧
        (Node.directory entries).LeadsTo names found) ↔
        ∃ rest, rest ≠ [] ∧ names = imageEntry :: rest ∧
          ∃ next, entries.lookup imageEntry = some next ∧ next.LeadsTo rest found := by
      refine exists_congr fun rest => and_congr_right fun _ => and_congr_right fun hnames => ?_
      rw [hnames, leadsTo_imageEntry_iff hproper]
    rw [hbelow, and_iff_right hlong]
    cases hlookup : entries.lookup imageEntry with
    | none =>
      rw [hlookup] at h
      obtain rfl := Except.ok.inj h
      simp
    | some node =>
      rw [hlookup] at h
      cases node with
      | file content => cases h
      | directory inner =>
        obtain rfl := Except.ok.inj h
        simp only [List.mem_map, Prod.exists, Prod.mk.injEq, Node.mem_descendants_iff,
          Option.some.injEq, exists_eq_left']
        constructor
        · rintro ⟨rest, found, ⟨hrest, hleads⟩, rfl, rfl⟩
          exact ⟨rest, hrest, rfl, hleads⟩
        · rintro ⟨rest, hrest, rfl, hleads⟩
          exact ⟨rest, found, ⟨hrest, hleads⟩, rfl, rfl⟩

/-! ## What is loaded -/

theorem map_eq_imageEntry_iff {names : List String} {rest : List ByteArray} :
    names.map String.toUTF8 = imageEntry :: rest ↔
      ∃ behind : List String, names = imageDirectory :: behind ∧ behind.map String.toUTF8 = rest := by
  cases names with
  | nil => simp
  | cons name names =>
    rw [List.map_cons, List.cons.injEq]
    constructor
    · rintro ⟨hname, hnames⟩
      rw [Text.toUTF8_injective hname]
      exact ⟨names, rfl, hnames⟩
    · rintro ⟨behind, hbehind, hrest⟩
      obtain ⟨rfl, rfl⟩ := List.cons.inj hbehind
      exact ⟨rfl, hrest⟩

/-- An asset in the image directory has a name there. -/
theorem AreNames.exists_behind {names : List String} (h : AreNames names)
    (hhead : names.head? = some imageDirectory) :
    ∃ behind, behind ≠ [] ∧ names = imageDirectory :: behind := by
  obtain ⟨behind, rfl⟩ := List.head?_eq_some_iff.1 hhead
  refine ⟨behind, ?_, rfl⟩
  rintro rfl
  obtain ⟨name, hlast, hasset⟩ := h
  obtain rfl := Option.some.inj hlast
  exact absurd (isAsset_iff.1 hasset) (by decide)

theorem mem_files_asset_iff {names : List String} {content : ByteArray} :
    (names.map String.toUTF8, .file content) ∈ entries.files ∧ AreNames names ↔
      (Node.directory entries).HasAsset names content ∧ names.length = 1 := by
  rw [mem_files_iff, List.length_map]
  constructor
  · rintro ⟨⟨hone, _, hleads⟩, hasset⟩
    exact ⟨⟨hleads, hasset⟩, hone⟩
  · rintro ⟨⟨hleads, hasset⟩, hone⟩
    exact ⟨⟨hone, rfl, hleads⟩, hasset⟩

theorem mem_images_asset_iff (hproper : (Node.directory entries).Proper)
    {listed : List (List ByteArray × Node)} (h : images root entries = .ok listed)
    {names : List String} {content : ByteArray} :
    (names.map String.toUTF8, .file content) ∈ listed ∧ AreNames names ↔
      (Node.directory entries).HasAsset names content ∧
        names.head? = some imageDirectory ∧ ¬ Path.isLong (Path.join root imageDirectory) := by
  rw [mem_images_iff hproper h]
  constructor
  · rintro ⟨⟨hshort, rest, _, hnames, hleads⟩, hasset⟩
    obtain ⟨behind, rfl, _⟩ := map_eq_imageEntry_iff.1 hnames
    exact ⟨⟨hleads, hasset⟩, rfl, hshort⟩
  · rintro ⟨⟨hleads, hasset⟩, hhead, hshort⟩
    obtain ⟨behind, hbehind, rfl⟩ := hasset.exists_behind hhead
    refine ⟨⟨hshort, behind.map String.toUTF8, ?_, rfl, hleads⟩, hasset⟩
    exact fun hnil => hbehind (List.map_eq_nil_iff.1 hnil)

theorem load_document {disk : Disk} (hroot : disk root = .ok node) :
    load disk .document root = ofDocument root node := by
  unfold load
  rw [hroot]

theorem ofDocument_directory (root : String) (entries : Entries) :
    ofDocument root (.directory entries) = (do
      let own ← ofAllFound root entries.files
      let images ← ofAllFound root (← images root entries)
      return own.insertAll images.entries) := rfl

theorem below_files (entries : Entries) : Below (.directory entries) entries.files :=
  fun _ hentry => (mem_files_iff.1 hentry).2.2

theorem below_images (hproper : (Node.directory entries).Proper)
    {listed : List (List ByteArray × Node)} (h : images root entries = .ok listed) :
    Below (.directory entries) listed := by
  rintro ⟨names, found⟩ hentry
  obtain ⟨_, _, _, _, hleads⟩ := (mem_images_iff hproper h).1 hentry
  exact hleads

theorem stops_files_iff : (∃ entry ∈ entries.files, Stops root entry.1 entry.2) ↔
    ∃ names content, (Node.directory entries).HasAsset names content ∧ names.length = 1 ∧
      Unreadable root names content := by
  have hfiles : ∀ names inner, (names, Node.directory inner) ∉ entries.files := by
    intro names inner hentry
    cases (mem_files_iff.1 hentry).2.1
  rw [exists_stops_iff]
  simp only [hfiles, false_and, exists_false, false_or, ← and_assoc, mem_files_asset_iff]

theorem stops_images_iff (hproper : (Node.directory entries).Proper)
    {listed : List (List ByteArray × Node)} (h : images root entries = .ok listed) :
    (∃ entry ∈ listed, Stops root entry.1 entry.2) ↔
      (¬ Path.isLong (Path.join root imageDirectory) ∧ ∃ names inner, names ≠ [] ∧
        (Node.directory entries).LeadsTo (imageEntry :: names) (.directory inner) ∧
          Path.isLongBelow root (imageEntry :: names)) ∨
      ∃ names content, (Node.directory entries).HasAsset names content ∧
        (names.head? = some imageDirectory ∧ ¬ Path.isLong (Path.join root imageDirectory)) ∧
          Unreadable root names content := by
  rw [exists_stops_iff]
  simp only [← and_assoc (a := (_, _) ∈ listed), mem_images_asset_iff hproper h]
  simp only [and_assoc]
  refine or_congr_left ?_
  constructor
  · rintro ⟨names, inner, hentry, hlong⟩
    obtain ⟨hshort, rest, hrest, rfl, hleads⟩ := (mem_images_iff hproper h).1 hentry
    exact ⟨hshort, rest, inner, hrest, hleads, hlong⟩
  · rintro ⟨hshort, rest, inner, hrest, hleads, hlong⟩
    exact ⟨_, inner, (mem_images_iff hproper h).2 ⟨hshort, rest, hrest, rfl, hleads⟩, hlong⟩

theorem ofDocument_fails_iff (root : String) (entries : Entries) :
    (∃ fault, ofDocument root (.directory entries) = .error fault) ↔
      (∃ entry ∈ entries.files, Stops root entry.1 entry.2) ∨
      (∃ fault, images root entries = .error fault) ∨
      ∃ listed, images root entries = .ok listed ∧ ∃ entry ∈ listed, Stops root entry.1 entry.2 := by
  have hrest : ∀ own : Assets, (∃ fault, (do
      let images ← ofAllFound root (← images root entries)
      return own.insertAll images.entries : Except AssetFault Assets) = .error fault) ↔
      (∃ fault, images root entries = .error fault) ∨
        ∃ listed, images root entries = .ok listed ∧ ∃ entry ∈ listed, Stops root entry.1 entry.2 := by
    intro own
    rw [exists_bind_eq_error_iff]
    refine or_congr_right (exists_congr fun listed => and_congr_right fun _ => ?_)
    rw [exists_bind_eq_error_iff, ofAllFound_error_iff]
    exact or_iff_left fun ⟨_, _, hnever⟩ => not_exists_error rfl hnever
  rw [ofDocument_directory, exists_bind_eq_error_iff, ← ofAllFound_error_iff]
  simp only [hrest]
  cases ofAllFound root entries.files <;> simp

/-- A document's assets are not loaded if it stands in no directory, if the image directory is a file,
or if something that is searched stops the search. -/
theorem ofDocument_error_iff (hproper : node.Proper) :
    (∃ fault, ofDocument root node = .error fault) ↔
      node.isFile ∨
      (¬ Path.isLong (Path.join root imageDirectory) ∧
        ((∃ content, node.LeadsTo [imageEntry] (.file content)) ∨
        ∃ names inner, names ≠ [] ∧ node.LeadsTo (imageEntry :: names) (.directory inner) ∧
          Path.isLongBelow root (imageEntry :: names))) ∨
      ∃ names content, node.HasAsset names content ∧ Searched root names ∧
        Unreadable root names content := by
  cases node with
  | file content => exact iff_of_true ⟨_, rfl⟩ (.inl rfl)
  | directory entries =>
    have hsearched : (∃ names content, (Node.directory entries).HasAsset names content ∧
        Searched root names ∧ Unreadable root names content) ↔
        (∃ names content, (Node.directory entries).HasAsset names content ∧ names.length = 1 ∧
          Unreadable root names content) ∨
        ∃ names content, (Node.directory entries).HasAsset names content ∧
          (names.head? = some imageDirectory ∧ ¬ Path.isLong (Path.join root imageDirectory)) ∧
            Unreadable root names content := by
      simp only [Searched, or_and_right, and_or_left, exists_or]
    have hfile : (Node.directory entries).isFile = false := rfl
    rw [ofDocument_fails_iff, stops_files_iff, images_error_iff hproper, hsearched, hfile]
    cases himages : images root entries with
    | error fault =>
      have hfails := (images_error_iff hproper).1 ⟨fault, himages⟩
      exact iff_of_true (.inr (.inl hfails)) (.inr (.inl ⟨hfails.1, .inl hfails.2⟩))
    | ok listed =>
      simp only [Except.ok.injEq, exists_eq_left', stops_images_iff hproper himages]
      constructor
      · rintro (hown | hfails | hinner | hlisted)
        · exact .inr (.inr (.inl hown))
        · exact .inr (.inl ⟨hfails.1, .inl hfails.2⟩)
        · exact .inr (.inl ⟨hinner.1, .inr hinner.2⟩)
        · exact .inr (.inr (.inr hlisted))
      · rintro (hnever | ⟨hshort, hcontent | hinner⟩ | hown | hlisted)
        · cases hnever
        · exact .inr (.inl ⟨hshort, hcontent⟩)
        · exact .inr (.inr (.inl ⟨hshort, hinner⟩))
        · exact .inl hown
        · exact .inr (.inr (.inr hlisted))

/-- The assets of a document that are loaded are the ones that are searched for. -/
theorem get?_ofDocument {assets : Assets} (hproper : node.Proper)
    (h : ofDocument root node = .ok assets) {key text : String} :
    assets.get? key = some text ↔
      ∃ names, "/".intercalate names = key ∧ node.HasAsset names text.toUTF8 ∧
        Searched root names := by
  cases node with
  | file content => cases h
  | directory entries =>
    rw [ofDocument_directory] at h
    obtain ⟨own, hown, h⟩ := bind_eq_ok_iff.1 h
    obtain ⟨listed, hlisted, h⟩ := bind_eq_ok_iff.1 h
    obtain ⟨images, himages, h⟩ := bind_eq_ok_iff.1 h
    obtain rfl := pure_eq_ok_iff.1 h
    have hownIff : ∀ text, own.get? key = some text ↔ ∃ names, "/".intercalate names = key ∧
        (Node.directory entries).HasAsset names text.toUTF8 ∧ names.length = 1 := by
      intro text
      rw [get?_ofAllFound hproper (below_files entries) hown]
      simp only [and_comm (a := AreNames _), mem_files_asset_iff]
    have himagesIff : ∀ text, images.get? key = some text ↔ ∃ names, "/".intercalate names = key ∧
        (Node.directory entries).HasAsset names text.toUTF8 ∧
          names.head? = some imageDirectory ∧ ¬ Path.isLong (Path.join root imageDirectory) := by
      intro text
      rw [get?_ofAllFound hproper (below_images hproper hlisted) himages]
      simp only [and_comm (a := AreNames _), mem_images_asset_iff hproper hlisted]
    have hboth : (own.insertAll images.entries).get? key = (images.get? key).or (own.get? key) :=
      Bindings.get?_insertAll (List.nodup_iff_count_le_one.1 images.nodup_keys key) own
    rw [hboth, Option.or_eq_some_iff, himagesIff, hownIff]
    constructor
    · rintro (⟨names, hkey, hasset, hhead⟩ | ⟨_, names, hkey, hasset, hone⟩)
      · exact ⟨names, hkey, hasset, .inr hhead⟩
      · exact ⟨names, hkey, hasset, .inl hone⟩
    · rintro ⟨names, hkey, hasset, hone | hhead⟩
      · refine .inr ⟨?_, names, hkey, hasset, hone⟩
        -- no asset in the image directory has the path of one next to the document
        refine Option.eq_none_iff_forall_ne_some.2 fun other hother => ?_
        obtain ⟨others, hotherKey, hotherAsset, hotherHead, _⟩ := (himagesIff other).1 hother
        obtain ⟨rfl, _⟩ := unique_of_path hproper hasset hotherAsset (by rw [hkey, hotherKey])
        obtain ⟨behind, hbehind, rfl⟩ := hasset.2.exists_behind hotherHead
        exact hbehind (List.length_eq_zero_iff.1 (Nat.succ.inj hone))
      · exact .inl ⟨names, hkey, hasset, hhead⟩

/-! ## A document in a bundle -/

theorem near_iff_of_hasAsset {names : List String} {content : ByteArray} (hproper : node.Proper)
    (h : node.HasAsset names content) :
    Near ("/".intercalate names) ↔ names.length = 1 ∨ names.head? = some imageDirectory := by
  rw [near_iff h.2.ne_nil (plain_of_hasAsset hproper h)]
  refine or_congr_right ⟨?_, h.2.exists_behind⟩
  rintro ⟨rest, _, rfl⟩
  rfl

/-- What stands below the image directory of a bundle that is loaded can be reached. -/
theorem not_isLong_of_ofBundle {bundle : Assets} (h : ofBundle root node = .ok bundle)
    {rest : List ByteArray} (hrest : rest ≠ []) (hleads : node.LeadsTo (imageEntry :: rest) found) :
    ¬ Path.isLong (Path.join root imageDirectory) := by
  intro hlong
  obtain ⟨entries, next, rfl, hentry, hnext⟩ := Node.leadsTo_cons_iff.1 hleads
  obtain ⟨inner, rfl⟩ : ∃ inner, next = .directory inner := by
    cases hnext with
    | here => exact absurd rfl hrest
    | enter => exact ⟨_, rfl⟩
  refine not_exists_error h (ofBundle_error_iff.2 (.inr (.inl ⟨[imageEntry], inner, ?_, ?_, ?_⟩)))
  · exact List.cons_ne_nil _ _
  · exact .enter hentry (.here _)
  · rwa [isLongBelow_imageEntry]

theorem not_isLong_of_ofBundle_asset {bundle : Assets} (h : ofBundle root node = .ok bundle)
    {names : List String} {content : ByteArray} (hasset : node.HasAsset names content)
    (hhead : names.head? = some imageDirectory) :
    ¬ Path.isLong (Path.join root imageDirectory) := by
  obtain ⟨behind, hbehind, rfl⟩ := hasset.2.exists_behind hhead
  refine not_isLong_of_ofBundle h (fun hnil => hbehind ?_) hasset.1
  exact List.map_eq_nil_iff.1 hnil

theorem isLong_join_mono (hsize : (Path.join other "").utf8ByteSize ≤ (Path.join root "").utf8ByteSize)
    (h : Path.isLong (Path.join other imageDirectory)) : Path.isLong (Path.join root imageDirectory) := by
  rw [← isLongBelow_imageEntry] at h ⊢
  exact Path.isLongBelow_mono hsize h

/-- The assets of a document next to a bundle are the near ones of the bundle. The document may be
reached by a path that is spelled shorter. -/
theorem get?_ofDocument_eq_some_iff {bundle document : Assets} (hproper : node.Proper)
    (hsize : (Path.join other "").utf8ByteSize ≤ (Path.join root "").utf8ByteSize)
    (hbundle : ofBundle root node = .ok bundle) (hdocument : ofDocument other node = .ok document)
    (key text : String) :
    document.get? key = some text ↔ Near key ∧ bundle.get? key = some text := by
  rw [get?_ofDocument hproper hdocument, get?_ofBundle hproper hbundle]
  constructor
  · rintro ⟨names, rfl, hasset, hsearched⟩
    exact ⟨(near_iff_of_hasAsset hproper hasset).2 (hsearched.imp_right And.left), names, rfl, hasset⟩
  · rintro ⟨hnear, names, rfl, hasset⟩
    refine ⟨names, rfl, hasset, ?_⟩
    rcases (near_iff_of_hasAsset hproper hasset).1 hnear with hone | hhead
    · exact .inl hone
    · exact .inr ⟨hhead, fun hlong =>
        not_isLong_of_ofBundle_asset hbundle hasset hhead (isLong_join_mono hsize hlong)⟩

/-- Where the assets of a bundle are loaded and those of a document in it, the latter are loaded by a
path that is spelled shorter, too, unless the image directory is a file that only the shorter path
reaches. -/
theorem exists_ofDocument_of_size_le {bundle document : Assets} (hproper : node.Proper)
    (hsize : (Path.join other "").utf8ByteSize ≤ (Path.join root "").utf8ByteSize)
    (hbundle : ofBundle root node = .ok bundle) (hdocument : ofDocument root node = .ok document)
    (hreached : Path.isLong (Path.join root imageDirectory) →
      ∀ content, ¬ node.LeadsTo [imageEntry] (.file content)) :
    ∃ document, ofDocument other node = .ok document := by
  cases hother : ofDocument other node with
  | ok assets => exact ⟨assets, rfl⟩
  | error fault =>
    -- what stops the search by the shorter path stops the one by the path of the bundle
    refine absurd ((ofDocument_error_iff hproper).2 ?_) (not_exists_error hdocument)
    rcases (ofDocument_error_iff hproper).1 ⟨fault, hother⟩ with
      hfile | ⟨_, ⟨content, hcontent⟩ | ⟨names, inner, hnames, hleads, hlong⟩⟩ |
        ⟨names, content, hasset, hsearched, hunreadable⟩
    · exact .inl hfile
    · exact .inr (.inl ⟨fun hlong => hreached hlong content hcontent, .inl ⟨content, hcontent⟩⟩)
    · exact .inr (.inl ⟨not_isLong_of_ofBundle hbundle hnames hleads, .inr ⟨names, inner, hnames,
        hleads, Path.isLongBelow_mono hsize hlong⟩⟩)
    · refine .inr (.inr ⟨names, content, hasset, ?_,
        hunreadable.imp_left (Path.isLongBelow_mono hsize)⟩)
      refine hsearched.imp_right fun hhead => ⟨hhead.1, ?_⟩
      exact not_isLong_of_ofBundle_asset hbundle hasset hhead.1

end Assets

/-! ## Images with near references -/

namespace Image

/-- An image refers to no asset, or to one whose path is near. -/
def Near (image : Image) : Prop :=
  ∀ file, image.file = some file → Assets.isAsset file → Assets.Near (assetName file)

variable {image : Image}

theorem reference_eq_asset {name : String} (h : image.reference = .asset name) :
    ∃ file, image.file = some file ∧ Assets.isAsset file ∧ assetName file = name := by
  unfold reference at h
  split at h
  · cases h
  · next file hfile =>
    split at h
    · cases h
    · split at h
      · cases h
      · split at h
        · next hsuffix =>
          refine ⟨file, hfile, ?_, Reference.asset.inj h⟩
          exact Assets.isAsset_iff.2 (List.isSuffixOf_iff_suffix.1 hsuffix)
        · cases h

theorem near_inImages (name : String) : Assets.Near (inImages name) := by
  have hchars : (inImages name).toList = (imageDirectory ++ "/").toList ++ name.toList :=
    String.toList_append
  right
  rw [String.startsWith_string_iff, hchars]
  exact List.prefix_append _ _

/-- Images with near references are shown alike if near assets are the same. -/
theorem source_congr {bundle document : Assets} (hnear : image.Near)
    (h : ∀ key text, document.get? key = some text ↔ Assets.Near key ∧ bundle.get? key = some text) :
    image.source document = image.source bundle := by
  have hget : ∀ key, Assets.Near key → document.get? key = bundle.get? key := by
    intro key hkey
    refine Option.ext fun text => ?_
    rw [h key text]
    exact and_iff_right hkey
  unfold source
  cases hreference : image.reference with
  | nothing => rfl
  | payload text => rfl
  | base64 text => rfl
  | asset name =>
    obtain ⟨file, hfile, hasset, rfl⟩ := reference_eq_asset hreference
    have hasset? : asset? document (assetName file) = asset? bundle (assetName file) := by
      rw [asset?_eq, asset?_eq]
      unfold shown?
      rw [hget _ (hnear file hfile hasset), hget _ (near_inImages _)]
    show ((asset? document _).map _).getD "" = ((asset? bundle _).map _).getD ""
    rw [hasset?]

end Image

end ScreenFlow
