import ScreenFlow.Text.Blank

/-!
# Texts without blanks at the ends

Blanks at either end of a text make no difference once it is trimmed.
-/

namespace ScreenFlow.Text

theorem trimChars_concat {chars : List Char} {char : Char} (hblank : isBlank char) :
    trimChars (chars ++ [char]) = trimChars chars := by
  unfold trimChars
  rw [List.dropWhile_append]
  by_cases hall : (chars.dropWhile isBlank).isEmpty
  · rw [if_pos hall, List.dropWhile_cons_of_pos hblank, List.isEmpty_iff.1 hall]
    rfl
  · rw [if_neg hall, List.reverse_append, List.reverse_singleton, List.singleton_append,
      List.dropWhile_cons_of_pos hblank]

theorem trimChars_append_blanks (chars : List Char) {blanks : List Char}
    (hblanks : ∀ c ∈ blanks, isBlank c = true) : trimChars (chars ++ blanks) = trimChars chars := by
  induction blanks generalizing chars with
  | nil => rw [List.append_nil]
  | cons blank blanks ih =>
    obtain ⟨hblank, hrest⟩ := List.forall_mem_cons.1 hblanks
    rw [List.append_cons, ih _ hrest, trimChars_concat hblank]

theorem trimChars_blanks_append (chars : List Char) {blanks : List Char}
    (hblanks : ∀ c ∈ blanks, isBlank c = true) : trimChars (blanks ++ chars) = trimChars chars := by
  unfold trimChars
  rw [List.dropWhile_append_of_pos hblanks]

end ScreenFlow.Text
