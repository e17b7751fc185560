import ScreenFlow.Proofs.Assets.Image
import ScreenFlow.Proofs.FileTree.Walk

/-!
# The assets of a bundle

The assets of a bundle directory are exactly the files below it that are assets, each bound to its
path: a walk through any tree loses none, merges none and adds none. So an image is shown by the file
at the very path that it names, or by the one at that path in the image directory.
-/

namespace ScreenFlow

namespace Node

/-- Below a node, the file at a path holds a text that can be shown. -/
def Shows (node : Node) (path text : String) : Prop :=
  ∃ names : List String, "/".intercalate names = path ∧
    node.LeadsTo (names.map String.toUTF8) (.file text.toUTF8) ∧ Text.allBlank text = false

end Node

namespace Assets

variable {disk : Disk} {root : String} {node : Node} {assets : Assets}

/-! ## What is loaded -/

theorem below_descendants (node : Node) : Below node node.descendants :=
  fun _ hentry => (Node.mem_descendants_iff.1 hentry).2

theorem load_bundle (hroot : disk root = .ok node) : load disk .bundle root = ofBundle root node := by
  unfold load
  rw [hroot]

theorem ofBundle_directory (root : String) (entries : Entries) :
    ofBundle root (.directory entries) = ofAllFound root (Node.directory entries).descendants := by
  rw [Node.descendants]
  rfl

/-- A bundle is not loaded if it is no directory, or if something below it stops the search. -/
theorem ofBundle_error_iff : (∃ fault, ofBundle root node = .error fault) ↔
    node.isFile ∨
    (∃ names entries, names ≠ [] ∧ node.LeadsTo names (.directory entries) ∧
      Path.isLongBelow root names) ∨
    ∃ names content, node.HasAsset names content ∧ Unreadable root names content := by
  cases node with
  | file content => exact iff_of_true ⟨_, rfl⟩ (.inl rfl)
  | directory entries =>
    rw [ofBundle_directory, ofAllFound_error_iff, exists_stops_iff]
    simp only [Node.mem_descendants_iff, Node.isFile, Bool.false_eq_true, false_or, and_assoc,
      Node.HasAsset]
    refine or_congr_right (exists_congr fun names => exists_congr fun content => ?_)
    constructor
    · rintro ⟨_, hleads, hasset, h⟩
      exact ⟨hleads, hasset, h⟩
    · rintro ⟨hleads, hasset, h⟩
      exact ⟨fun hnil => hasset.ne_nil (List.map_eq_nil_iff.1 hnil), hleads, hasset, h⟩

/-- The assets of a bundle that is loaded are the ones below it. -/
theorem get?_ofBundle (hproper : node.Proper) (h : ofBundle root node = .ok assets)
    {key text : String} : assets.get? key = some text ↔
      ∃ names, "/".intercalate names = key ∧ node.HasAsset names text.toUTF8 := by
  cases node with
  | file content => cases h
  | directory entries =>
    rw [ofBundle_directory] at h
    rw [get?_ofAllFound hproper (below_descendants _) h]
    refine exists_congr fun names => and_congr_right fun _ => ?_
    rw [Node.mem_descendants_iff]
    constructor
    · rintro ⟨hasset, _, hleads⟩
      exact ⟨hleads, hasset⟩
    · rintro ⟨hleads, hasset⟩
      exact ⟨hasset, fun hnil => hasset.ne_nil (List.map_eq_nil_iff.1 hnil), hleads⟩

/-! ## What images are shown by -/

theorem shown?_ofBundle (hproper : node.Proper) (h : ofBundle root node = .ok assets)
    {path text : String} (hpath : isAsset path) :
    Image.shown? assets path = some text ↔ node.Shows path text := by
  unfold Image.shown? Node.Shows
  rw [Option.filter_eq_some_iff, get?_ofBundle hproper h]
  constructor
  · rintro ⟨⟨names, hkey, hasset⟩, hshown⟩
    exact ⟨names, hkey, hasset.1, by simpa using hshown⟩
  · rintro ⟨names, rfl, hleads, hshown⟩
    exact ⟨⟨names, rfl, hleads, areNames_iff.2 hpath⟩, by simpa using hshown⟩

/-- **What a bundle loads.** A bundle is not loaded exactly if it is no directory, if the path of a
directory below it or of an asset is too long, or if an asset is no text. Otherwise the files below it
that are assets are bound to their paths, each to its own, and nothing else is. An image that refers to
an asset is then shown by the file at the path that it names, or else by the one at that path in the
image directory, or else not at all; files of blanks are passed over. -/
theorem load_bundle_collects (hroot : disk root = .ok node) (hproper : node.Proper) :
    ((∃ fault, load disk .bundle root = .error fault) ↔
      node.isFile ∨
      (∃ names entries, names ≠ [] ∧ node.LeadsTo names (.directory entries) ∧
        Path.isLongBelow root names) ∨
      ∃ names content, node.HasAsset names content ∧ Unreadable root names content) ∧
    (∀ names content others other, node.HasAsset names content → node.HasAsset others other →
      "/".intercalate names = "/".intercalate others → names = others ∧ content = other) ∧
    ∀ assets, load disk .bundle root = .ok assets →
      (∀ key text, assets.get? key = some text ↔
        ∃ names, "/".intercalate names = key ∧ node.HasAsset names text.toUTF8) ∧
      ∀ (image : Image) file, image.file = some file → isAsset file → ¬ file.startsWith Image.payloadScheme →
        let own := Image.assetName file
        let payload := fun text => Image.payloadHeader ++ Text.trim text
        (∀ text, node.Shows own text → image.source assets = payload text) ∧
        ((∀ text, ¬ node.Shows own text) →
          (∀ text, node.Shows (Image.inImages own) text → image.source assets = payload text) ∧
          ((∀ text, ¬ node.Shows (Image.inImages own) text) → image.source assets = "")) := by
  rw [load_bundle hroot]
  refine ⟨ofBundle_error_iff, fun names content others other h hother => unique_of_path hproper h hother,
    fun assets hassets => ⟨fun key text => get?_ofBundle hproper hassets, ?_⟩⟩
  intro image file hfile hasset hscheme own payload
  have hown : isAsset own := Image.isAsset_assetName hasset
  have hfirst : ∀ text, Image.shown? assets own = some text ↔ node.Shows own text :=
    fun text => shown?_ofBundle hproper hassets hown
  have hsecond : ∀ text, Image.shown? assets (Image.inImages own) = some text ↔
      node.Shows (Image.inImages own) text :=
    fun text => shown?_ofBundle hproper hassets (Image.isAsset_inImages hown)
  have hsource : image.source assets =
      (((Image.shown? assets own).or (Image.shown? assets (Image.inImages own))).map payload).getD "" :=
    Image.source_of_isAsset hfile hasset hscheme assets
  refine ⟨fun text htext => ?_, fun hnone => ?_⟩
  · rw [hsource, (hfirst text).2 htext]
    rfl
  · have hfirstNone : Image.shown? assets own = none :=
      Option.eq_none_iff_forall_ne_some.2 fun text htext => hnone text ((hfirst text).1 htext)
    rw [hfirstNone, Option.none_or] at hsource
    refine ⟨fun text htext => ?_, fun hneither => ?_⟩
    · rw [hsource, (hsecond text).2 htext]
      rfl
    · have hsecondNone : Image.shown? assets (Image.inImages own) = none :=
        Option.eq_none_iff_forall_ne_some.2 fun text htext => hneither text ((hsecond text).1 htext)
      rw [hsource, hsecondNone]
      rfl

/-! ## A bundle with a directory of images -/

/-- A bundle with an asset of blanks, one of the same name in the image directory, and a directory
there that is named as an asset. -/
def nestedBundle : Node :=
  .directory
    [("logo.b64.txt".toUTF8, .file "\n".toUTF8),
      (imageDirectory.toUTF8, .directory
        [("logo.b64.txt".toUTF8, .file " TE9HTw==\n".toUTF8),
          ("old.b64.txt".toUTF8, .directory [("logo.b64.txt".toUTF8, .file "T0xE".toUTF8)])])]

theorem nestedBundle_proper : nestedBundle.Proper := by
  refine .directory (by decide) (by decide) ?_
  refine List.forall_mem_cons.2 ⟨.file _, List.forall_mem_singleton.2 ?_⟩
  refine .directory (by decide) (by decide) ?_
  refine List.forall_mem_cons.2 ⟨.file _, List.forall_mem_singleton.2 ?_⟩
  exact .directory (by decide) (by decide) (List.forall_mem_singleton.2 (.file _))

theorem nestedBundle_own : nestedBundle.HasAsset ["logo.b64.txt"] "\n".toUTF8 :=
  ⟨.enter List.mem_cons_self (.here _), "logo.b64.txt", rfl, isAsset_iff.2 (by decide)⟩

theorem nestedBundle_images :
    nestedBundle.HasAsset [imageDirectory, "logo.b64.txt"] " TE9HTw==\n".toUTF8 :=
  ⟨.enter (List.mem_cons_of_mem _ List.mem_cons_self) (.enter List.mem_cons_self (.here _)),
    "logo.b64.txt", rfl, isAsset_iff.2 (by decide)⟩

theorem nestedBundle_deep :
    nestedBundle.HasAsset [imageDirectory, "old.b64.txt", "logo.b64.txt"] "T0xE".toUTF8 :=
  ⟨.enter (List.mem_cons_of_mem _ List.mem_cons_self)
      (.enter (List.mem_cons_of_mem _ List.mem_cons_self) (.enter List.mem_cons_self (.here _))),
    "logo.b64.txt", rfl, isAsset_iff.2 (by decide)⟩

theorem load_bundle_collects_nested :
    let disk := Disk.ofTree nestedBundle "/"
    disk "." = .ok nestedBundle ∧ nestedBundle.Proper ∧
      ∃ assets, load disk .bundle "." = .ok assets ∧
        assets.get? "images_base64/old.b64.txt/logo.b64.txt" = some "T0xE" ∧
        ∀ image : Image, image.file = some "./logo.b64.txt" →
          image.source assets = "data:image/png;base64,TE9HTw==" := by
  intro disk
  have hdisk : disk "." = .ok nestedBundle :=
    Disk.ofTree_of_idle (by decide +kernel) (by decide +kernel) (by decide +kernel)
  have hloads : (load disk .bundle ".").isOk = true := by decide +kernel
  obtain ⟨_, hunique, hcollects⟩ := load_bundle_collects hdisk nestedBundle_proper
  cases hassets : load disk .bundle "." with
  | error fault =>
    rw [hassets] at hloads
    cases hloads
  | ok assets =>
    obtain ⟨hget, hshown⟩ := hcollects assets hassets
    refine ⟨hdisk, nestedBundle_proper, assets, rfl, ?_, fun image hfile => ?_⟩
    · exact (hget _ _).2 ⟨_, by decide +kernel, nestedBundle_deep⟩
    · have hname : Image.assetName "./logo.b64.txt" = "logo.b64.txt" := by decide +kernel
      have hsource := (hshown image _ hfile (by decide +kernel) (by decide +kernel)).2
      rw [hname] at hsource
      have hblank : ∀ text, ¬ nestedBundle.Shows "logo.b64.txt" text := by
        rintro text ⟨names, hpath, hleads, hshows⟩
        have hasset : nestedBundle.HasAsset names text.toUTF8 :=
          ⟨hleads, areNames_iff.2 (by rw [hpath]; decide +kernel)⟩
        have hsame := (hunique _ _ _ _ hasset nestedBundle_own (by rw [hpath]; decide +kernel)).2
        rw [Text.toUTF8_injective hsame] at hshows
        exact absurd hshows (by decide +kernel)
      rw [(hsource hblank).1 " TE9HTw==\n" ⟨_, by decide +kernel, nestedBundle_images.1,
        by decide +kernel⟩]
      decide +kernel

/-! ## A path that is too long -/

/-- A piece of text, again and again. -/
def repeated (count : Nat) (piece : String) : String := String.join (List.replicate count piece)

theorem repeated_succ (count : Nat) (piece : String) :
    repeated (count + 1) piece = piece ++ repeated count piece := by
  rw [repeated, List.replicate_succ, String.join_cons]
  rfl

theorem size_repeated (count : Nat) (piece : String) :
    (repeated count piece).utf8ByteSize = count * piece.utf8ByteSize := by
  induction count with
  | zero => rw [Nat.zero_mul]; rfl
  | succ count ih => rw [repeated_succ, String.utf8ByteSize_append, ih, Nat.succ_mul, Nat.add_comm]

theorem notMem_repeated {char : Char} {piece : String} (h : char ∉ piece.toList) (count : Nat) :
    char ∉ (repeated count piece).toList := by
  induction count with
  | zero => exact List.not_mem_nil
  | succ count ih =>
    rw [repeated_succ, String.toList_append]
    exact fun hmem => (List.mem_append.1 hmem).elim h ih

/-- A path of single dots: it leads nowhere else, but it is long. -/
def dotted (dots : Nat) : String := repeated dots "./"

theorem size_dotted (dots : Nat) : (dotted dots).utf8ByteSize = 2 * dots := by
  have hdot : "./".utf8ByteSize = 2 := by decide
  rw [dotted, size_repeated, hdot, Nat.mul_comm]

theorem idle_of_mem_dotted {dots : Nat} {component : List Char}
    (h : component ∈ Path.componentChars (dotted dots).toList) : component = [] ∨ component = ['.'] := by
  induction dots with
  | zero => exact .inl (List.mem_singleton.1 h)
  | succ dots ih =>
    have hchars : (dotted (dots + 1)).toList = ['.'] ++ '/' :: (dotted dots).toList := by
      rw [dotted, repeated_succ, String.toList_append]
      rfl
    rw [hchars, Path.componentChars_append, Path.componentChars_of_plain (by decide)] at h
    rcases List.mem_append.1 h with h | h
    · exact .inr (List.mem_singleton.1 h)
    · exact ih h

/-- The longest name of an asset. -/
def longName : String := repeated 247 "a" ++ Image.assetSuffix

theorem size_longName : longName.utf8ByteSize = 255 := by
  have hletter : "a".utf8ByteSize = 1 := by decide
  have hsuffix : Image.assetSuffix.utf8ByteSize = 8 := by decide
  rw [longName, String.utf8ByteSize_append, size_repeated, hletter, hsuffix]

theorem longName_plain : '/' ∉ longName.toList := by
  rw [longName, String.toList_append]
  exact fun hmem => (List.mem_append.1 hmem).elim
    (notMem_repeated (by decide) 247) (by decide)

/-- A directory with a single asset. -/
def longNamed : Node := .directory [(longName.toUTF8, .file "X".toUTF8)]

theorem longNamed_proper : longNamed.Proper :=
  .directory (List.nodup_singleton _) (by decide +kernel) (List.forall_mem_singleton.2 (.file _))

theorem longNamed_hasAsset : longNamed.HasAsset [longName] "X".toUTF8 :=
  ⟨.enter List.mem_cons_self (.here _), longName, rfl, isAsset_iff.2 (by
    rw [longName, String.toList_append]
    exact List.suffix_append _ _)⟩

/-- The only asset is a text. -/
theorem longNamed_isText {names : List String} {content : ByteArray}
    (h : longNamed.HasAsset names content) : String.fromUTF8? content ≠ none := by
  obtain ⟨hleads, hasset⟩ := h
  cases names with
  | nil => exact absurd rfl hasset.ne_nil
  | cons name names =>
    obtain ⟨next, hentry, hrest⟩ := Node.leadsTo_directory_iff.1 hleads
    obtain ⟨_, rfl⟩ := Prod.mk.inj (List.mem_singleton.1 hentry)
    cases names with
    | nil =>
      rw [Node.file.inj (Node.leadsTo_nil_iff.1 hrest), Text.fromUTF8?_eq_some_iff.2 rfl]
      exact Option.some_ne_none _
    | cons => exact absurd hrest Node.not_leadsTo_file

theorem dotted_ne_empty {dots : Nat} (hdots : dots ≠ 0) : dotted dots ≠ "" := by
  intro hempty
  have hsize := size_dotted dots
  rw [hempty] at hsize
  have hnone : "".utf8ByteSize = 0 := rfl
  omega

theorem ofTree_dotted {dots : Nat} (hdots : dots ≠ 0) (hshort : 2 * dots < Path.limit) :
    Disk.ofTree longNamed "/" (dotted dots) = .ok longNamed := by
  refine Disk.ofTree_of_idle (dotted_ne_empty hdots) ?_ ?_
  · unfold Path.isLong
    rw [size_dotted, decide_eq_true_eq]
    omega
  · have hjoin : (Path.join "/" (dotted dots)).toList = (dotted dots).toList ∨
        (Path.join "/" (dotted dots)).toList = [] ++ '/' :: (dotted dots).toList := by
      unfold Path.join
      split
      · exact .inl rfl
      · right
        rw [if_pos (Path.endsWith_slash_iff.2 ⟨[], rfl⟩), String.toList_append]
        rfl
    intro component hcomponent
    obtain ⟨chars, hchars, rfl⟩ := List.mem_map.1 hcomponent
    have hidle : chars = [] ∨ chars = ['.'] := by
      rcases hjoin with hjoin | hjoin
      · rw [hjoin] at hchars
        exact idle_of_mem_dotted hchars
      · rw [hjoin, Path.componentChars_append] at hchars
        rcases List.mem_append.1 hchars with hchars | hchars
        · exact .inl (List.mem_singleton.1 hchars)
        · exact idle_of_mem_dotted hchars
    rcases hidle with rfl | rfl
    · exact .inl rfl
    · exact .inr rfl

theorem unreadable_dotted {dots : Nat} (hdots : dots ≠ 0) (hlong : Path.limit ≤ 2 * dots + 255) :
    Unreadable (dotted dots) [longName] "X".toUTF8 := by
  left
  show Path.isLongBelow (dotted dots) [longName.toUTF8]
  rw [Path.isLongBelow_singleton _ longName_plain,
    Path.join_of_plain (dotted_ne_empty hdots) longName_plain, Path.isLong, decide_eq_true_eq]
  split
  · rw [String.utf8ByteSize_append, size_dotted, size_longName]
    exact hlong
  · rw [String.utf8ByteSize_append, String.utf8ByteSize_append, size_dotted, size_longName]
    omega

/-- A bundle may fail to load though it is a directory and all its assets are texts. -/
theorem longNamed_stops_bundle :
    let root := dotted 1970
    let disk := Disk.ofTree longNamed "/"
    disk root = .ok longNamed ∧ longNamed.Proper ∧
      (∃ fault, load disk .bundle root = .error fault) ∧
      ¬ (longNamed.isFile ∨
        ∃ names content, longNamed.HasAsset names content ∧ String.fromUTF8? content = none) := by
  intro root disk
  have hroot : disk root = .ok longNamed := ofTree_dotted (by decide) (by decide)
  refine ⟨hroot, longNamed_proper, ?_, ?_⟩
  · rw [load_bundle hroot]
    exact ofBundle_error_iff.2 (.inr (.inr ⟨_, _, longNamed_hasAsset, unreadable_dotted (by decide) (by decide)⟩))
  · rintro (hfile | ⟨names, content, hasset, hgarbled⟩)
    · cases hfile
    · exact longNamed_isText hasset hgarbled

end Assets

end ScreenFlow
