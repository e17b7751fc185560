import ScreenFlow.Bundle
import ScreenFlow.Proofs.FileTree.Spelling
import ScreenFlow.Proofs.Text.Cut

/-!
# Paths that are joined

A path to a name below a root goes on from the root with one slash (`Path.exists_join_eq`), and seen
from a directory it begins as the root does (`Path.front_join`). The directory of such a path is the
root without what adds nothing to its end (`Path.assetDirectory_join`), which makes no path below it
longer (`Path.size_join_trimmed_le`, `Path.isLongBelow_mono`).
-/

namespace ScreenFlow.Path

/-! ## From a root to a name -/

theorem isAbsolute_iff {path : String} : isAbsolute path = true ↔ path.toList.head? = some '/' := by
  unfold isAbsolute
  rw [String.startsWith_string_iff]
  cases path.toList with
  | nil => simp
  | cons first rest => simp [eq_comm]

theorem isAbsolute_append {path : String} (h : path ≠ "") (more : String) :
    isAbsolute (path ++ more) = isAbsolute path := by
  have hchars : path.toList ≠ [] := fun hnil => h (String.toList_eq_nil_iff.1 hnil)
  rw [Bool.eq_iff_iff, isAbsolute_iff, isAbsolute_iff, String.toList_append,
    List.head?_append_of_ne_nil _ hchars]

/-- What stands before a path that is seen from a directory. -/
def front (here path : String) : String :=
  if isAbsolute path || here.isEmpty then "" else if here.endsWith "/" then here else here ++ "/"

theorem join_eq_front (here path : String) : join here path = front here path ++ path := by
  unfold join front
  split
  · exact String.empty_append.symm
  · split <;> rfl

theorem front_append (here : String) {path : String} (h : path ≠ "") (more : String) :
    front here (path ++ more) = front here path := by
  unfold front
  rw [isAbsolute_append h]

theorem join_of_plain {root name : String} (hroot : root ≠ "") (hname : '/' ∉ name.toList) :
    join root name = if root.endsWith "/" then root ++ name else root ++ "/" ++ name := by
  have habsolute : isAbsolute name = false := by
    rw [Bool.eq_false_iff, ne_eq, isAbsolute_iff]
    exact fun h => hname (List.mem_of_mem_head? h)
  have hempty : root.isEmpty = false := by
    rw [Bool.eq_false_iff, ne_eq, String.isEmpty_iff]
    exact hroot
  unfold join
  rw [habsolute, hempty]
  rfl

theorem endsWith_slash_iff {path : String} :
    path.endsWith "/" = true ↔ ∃ before, path.toList = before ++ ['/'] := by
  rw [String.endsWith_eq_endsWith_toSlice, String.Slice.endsWith_string_iff, String.copy_toSlice]
  exact ⟨fun ⟨before, h⟩ => ⟨before, h.symm⟩, fun ⟨before, h⟩ => ⟨before, h.symm⟩⟩

theorem front_join (here : String) {root name : String} (hroot : root ≠ "")
    (hname : '/' ∉ name.toList) : front here (join root name) = front here root := by
  rw [join_of_plain hroot hname]
  split
  · exact front_append here hroot name
  · rw [String.append_assoc]
    exact front_append here hroot _

/-- A path to a name below a root goes on from the root with a slash. -/
theorem exists_join_eq {root name : String} (hroot : root ≠ "") (hname : '/' ∉ name.toList) :
    ∃ stem, (join root name).toList = stem ++ '/' :: name.toList ∧
      (root.toList = stem ∨ root.toList = stem ++ ['/']) := by
  rw [join_of_plain hroot hname]
  split
  · next hslash =>
    obtain ⟨stem, hstem⟩ := endsWith_slash_iff.1 hslash
    refine ⟨stem, ?_, .inr hstem⟩
    rw [String.toList_append, hstem, List.append_assoc]
    rfl
  · refine ⟨root.toList, ?_, .inl rfl⟩
    rw [String.toList_append, String.toList_append, List.append_assoc]
    rfl

/-! ## The directory of a document -/

/-- A path without what adds nothing to its end. -/
def trimmed (path : String) : String := String.ofList (dropIdle path.toList.reverse).reverse

theorem dropIdle_slash {chars : List Char} (h : chars ≠ []) :
    dropIdle ('/' :: chars) = dropIdle chars := by
  cases chars with
  | nil => exact absurd rfl h
  | cons => rfl

theorem dropIdle_ne_nil {chars : List Char} (h : chars ≠ []) : dropIdle chars ≠ [] := by
  fun_induction dropIdle chars with
  | case1 => exact List.cons_ne_nil _ _
  | case2 chars hchars ih => exact ih hchars
  | case3 chars ih => exact ih (List.cons_ne_nil _ _)
  | case4 => exact h

theorem dropIdle_suffix (chars : List Char) : dropIdle chars <:+ chars := by
  fun_induction dropIdle chars with
  | case1 => exact List.suffix_refl _
  | case2 chars hchars ih => exact ih.trans (List.suffix_cons _ _)
  | case3 chars ih => exact ih.trans (List.suffix_cons _ _)
  | case4 => exact List.suffix_refl _

theorem trimmed_ne_empty {root : String} (h : root ≠ "") : trimmed root ≠ "" := by
  have hchars : root.toList.reverse ≠ [] := by simpa using h
  simpa [trimmed] using dropIdle_ne_nil hchars

/-- What is trimmed is cut off from the end. -/
theorem exists_trimmed_append (root : String) : ∃ dropped, root = trimmed root ++ dropped := by
  obtain ⟨cut, hcut⟩ := dropIdle_suffix root.toList.reverse
  refine ⟨String.ofList cut.reverse, String.toList_injective ?_⟩
  rw [String.toList_append, trimmed, String.toList_ofList, String.toList_ofList,
    ← List.reverse_append, hcut, List.reverse_reverse]

theorem assetDirectory_join {root name : String} (hroot : root ≠ "") (hname : '/' ∉ name.toList) :
    Bundle.assetDirectory (join root name) = trimmed root := by
  have hchars : root.toList.reverse ≠ [] := by simpa using hroot
  have hdirectory : directory (join root name) = trimmed root := by
    obtain ⟨stem, hjoin, hstem⟩ := exists_join_eq hroot hname
    unfold directory trimmed
    rw [hjoin, List.reverse_append, List.reverse_cons, List.append_assoc, List.singleton_append,
      dropWhile_ne_append_cons _ (by simpa using hname)]
    rcases hstem with hstem | hstem
    · rw [← hstem, dropIdle_slash hchars]
    · rw [hstem, List.reverse_append]
      rfl
  have hnonempty : ¬ (trimmed root).isEmpty = true := by
    rw [String.isEmpty_iff]
    exact trimmed_ne_empty hroot
  unfold Bundle.assetDirectory
  rw [hdirectory]
  exact if_neg hnonempty

/-! ## Lengths -/

theorem join_eq_append (root : String) {name : String} (hname : '/' ∉ name.toList) :
    join root name = join root "" ++ name := by
  by_cases hroot : root = ""
  · subst hroot
    have hempty : ∀ path, join "" path = path := fun path => by simp [join]
    rw [hempty, hempty, String.empty_append]
  · rw [join_of_plain hroot hname, join_of_plain hroot (by simp)]
    split
    · rw [String.append_empty]
    · rw [String.append_empty]

theorem size_trimmed_le (root : String) : (trimmed root).utf8ByteSize ≤ root.utf8ByteSize := by
  obtain ⟨dropped, hdropped⟩ := exists_trimmed_append root
  conv_rhs => rw [hdropped, String.utf8ByteSize_append]
  exact Nat.le_add_right _ _

theorem size_join_trimmed_le {root : String} (h : root ≠ "") :
    (join (trimmed root) "").utf8ByteSize ≤ (join root "").utf8ByteSize := by
  obtain ⟨dropped, hdropped⟩ := exists_trimmed_append root
  by_cases hnone : dropped = ""
  · rw [hnone, String.append_empty] at hdropped
    rw [← hdropped]
  · have hcut : dropped.utf8ByteSize ≠ 0 := fun hzero => hnone (String.utf8ByteSize_eq_zero_iff.1 hzero)
    have hsizes : (trimmed root).utf8ByteSize + dropped.utf8ByteSize = root.utf8ByteSize := by
      rw [← String.utf8ByteSize_append, ← hdropped]
    have hroot : root.utf8ByteSize ≤ (join root "").utf8ByteSize := by
      rw [join_of_plain h (by simp)]
      split <;> simp
    have hslash : "/".utf8ByteSize = 1 := by decide
    rw [join_of_plain (trimmed_ne_empty h) (by simp)]
    -- a slash is put back only where something has been cut off
    split
    · rw [String.append_empty]
      omega
    · rw [String.append_empty, String.utf8ByteSize_append]
      omega

theorem size_below (root : String) (names : List ByteArray) :
    (below root names).size =
      (names.intersperse "/".toUTF8).foldl (fun size piece => size + piece.size)
        (join root "").utf8ByteSize := by
  have hfold : ∀ (pieces : List ByteArray) (start : ByteArray), (pieces.foldl (· ++ ·) start).size =
      pieces.foldl (fun size piece => size + piece.size) start.size := by
    intro pieces
    induction pieces with
    | nil => exact fun start => rfl
    | cons piece pieces ih =>
      intro start
      rw [List.foldl_cons, List.foldl_cons, ih, ByteArray.size_append]
  unfold below
  rw [hfold, String.toUTF8_eq_toByteArray, String.size_toByteArray]

theorem foldl_size_mono (pieces : List ByteArray) {short long : Nat} (h : short ≤ long) :
    pieces.foldl (fun size piece => size + piece.size) short ≤
      pieces.foldl (fun size piece => size + piece.size) long := by
  induction pieces generalizing short long with
  | nil => exact h
  | cons piece pieces ih => exact ih (Nat.add_le_add_right h piece.size)

theorem isLongBelow_mono {root other : String} {names : List ByteArray}
    (hsize : (join other "").utf8ByteSize ≤ (join root "").utf8ByteSize)
    (h : isLongBelow other names) : isLongBelow root names := by
  unfold isLongBelow at h ⊢
  rw [decide_eq_true_eq, size_below] at h ⊢
  exact Nat.le_trans h (foldl_size_mono _ hsize)

theorem isLongBelow_singleton (root : String) {name : String} (hname : '/' ∉ name.toList) :
    isLongBelow root [name.toUTF8] = isLong (join root name) := by
  unfold isLongBelow isLong
  rw [size_below, join_eq_append root hname, String.utf8ByteSize_append]
  rfl

end ScreenFlow.Path
