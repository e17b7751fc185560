import ScreenFlow.Proofs.Assets.Search

/-!
# Images that refer to assets

An image with a reference to an asset is shown by the first of two assets that is not blank: the one of
that very name, or the one of that name in the image directory (`Image.source_of_isAsset`).
-/

namespace ScreenFlow.Image

variable {image : Image} {file : String}

/-- The path of a name in the image directory. -/
def inImages (name : String) : String := imageDirectory ++ "/" ++ name

theorem isAsset_inImages {name : String} (h : Assets.isAsset name) : Assets.isAsset (inImages name) := by
  rw [Assets.isAsset_iff] at h ⊢
  rw [inImages, String.toList_append]
  exact List.suffix_append_of_suffix h

/-- A reference to an asset stays one without the `./` at its front. -/
theorem isAsset_assetName (h : Assets.isAsset file) : Assets.isAsset (assetName file) := by
  unfold assetName
  split
  · next name hfile =>
    rw [Assets.isAsset_iff, hfile] at h
    rw [Assets.isAsset_iff, String.toList_ofList]
    exact Assets.assetSuffix_append_iff.1 (show _ <:+ ['.'] ++ '/' :: name from h)
  · exact h

theorem reference_of_isAsset (hfile : image.file = some file) (hasset : Assets.isAsset file)
    (hscheme : ¬ file.startsWith payloadScheme) : image.reference = .asset (assetName file) := by
  have hnonempty : file ≠ "" := by
    rintro rfl
    exact absurd hasset (by decide)
  rw [String.startsWith_string_iff] at hscheme
  rw [Assets.isAsset_iff] at hasset
  unfold reference
  simp only [hfile]
  rw [if_neg hnonempty, if_neg fun h => hscheme (List.isPrefixOf_iff_prefix.1 h),
    if_pos (List.isSuffixOf_iff_suffix.2 hasset)]

/-- An asset at a path, unless it is blank. -/
def shown? (assets : Assets) (path : String) : Option String :=
  (assets.get? path).filter (!Text.allBlank ·)

theorem asset?_eq (assets : Assets) (name : String) :
    asset? assets name =
      ((shown? assets name).or (shown? assets (inImages name))).map Text.trim := by
  have hown : "" ++ name = name := String.empty_append
  have himages : "images_base64/" ++ name = inImages name := by
    rw [inImages, show imageDirectory ++ "/" = "images_base64/" by decide]
  unfold asset? shown? assetDirectories
  simp only [List.filterMap_cons, List.filterMap_nil, hown, himages]
  rcases assets.get? name with _ | first
  · rcases assets.get? (inImages name) with _ | second
    · rfl
    · cases hsecond : Text.allBlank second <;> simp [hsecond, Option.filter]
  · cases hfirst : Text.allBlank first with
    | false => simp [hfirst, Option.filter]
    | true =>
      rcases assets.get? (inImages name) with _ | second
      · simp [hfirst, Option.filter]
      · cases hsecond : Text.allBlank second <;> simp [hfirst, hsecond, Option.filter]

theorem source_of_isAsset (hfile : image.file = some file) (hasset : Assets.isAsset file)
    (hscheme : ¬ file.startsWith payloadScheme) (assets : Assets) :
    image.source assets =
      (((shown? assets (assetName file)).or (shown? assets (inImages (assetName file)))).map
        fun text => payloadHeader ++ Text.trim text).getD "" := by
  unfold source
  rw [reference_of_isAsset hfile hasset hscheme]
  show ((asset? assets (assetName file)).map (payloadHeader ++ ·)).getD "" = _
  rw [asset?_eq, Option.map_map]
  rfl

end ScreenFlow.Image
