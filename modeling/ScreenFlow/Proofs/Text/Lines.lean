import ScreenFlow.Command.Console
import ScreenFlow.Proofs.Text.Trim

/-!
# The lines of a text

The console takes its input apart byte by byte. Where the input is a text, that is taking the text
apart character by character (`linesOf_toUTF8`): no byte of a character outside ASCII ends a line. What
is decoded of a line is its text, up to the end of line that closes it (`exists_decode_withoutEnd`).

A line is what stands up to the next line feed, and that line feed with it, so a text is its lines one
after another. Some of these lines in their order are the lines of what they come to (`lines_join`).
-/

namespace ScreenFlow.Text

open String (utf8EncodeChar)

/-- The characters of the lines of a text, each with the line feed that closes it. -/
def lineChars : List Char → List (List Char)
  | [] => []
  | char :: chars =>
    if char = '\n' then [char] :: lineChars chars
    else
      match lineChars chars with
      | [] => [[char]]
      | line :: lines => (char :: line) :: lines

/-- The lines of a text, each with the line feed that closes it. -/
def lines (text : String) : List String := (lineChars text.toList).map String.ofList

/-! ## Lines as they stand in a text -/

/-- Lines as they stand in a text: only the last one may be open, and then it is not empty. -/
inductive Stand : List (List Char) → Prop
  | nil : Stand []
  | last {line : List Char} (nonempty : line ≠ []) (unclosed : '\n' ∉ line) : Stand [line]
  | cons {line : List Char} {lines : List (List Char)} (inside : '\n' ∉ line) (rest : Stand lines) :
      Stand ((line ++ ['\n']) :: lines)

theorem lineChars_open {line : List Char} (hnonempty : line ≠ []) (hopen : '\n' ∉ line) :
    lineChars line = [line] := by
  induction line with
  | nil => exact absurd rfl hnonempty
  | cons char chars ih =>
    have hchar : char ≠ '\n' := fun h => hopen (by simp [h])
    unfold lineChars
    rw [if_neg hchar]
    cases chars with
    | nil => rfl
    | cons next chars => rw [ih (List.cons_ne_nil _ _) fun h => hopen (List.mem_cons_of_mem _ h)]

theorem lineChars_closed {line : List Char} (hinside : '\n' ∉ line) (rest : List Char) :
    lineChars (line ++ '\n' :: rest) = (line ++ ['\n']) :: lineChars rest := by
  induction line with
  | nil => rfl
  | cons char chars ih =>
    have hchar : char ≠ '\n' := fun h => hinside (by simp [h])
    rw [List.cons_append, lineChars, if_neg hchar,
      ih fun h => hinside (List.mem_cons_of_mem _ h)]
    rfl

theorem stand_lineChars (chars : List Char) : Stand (lineChars chars) := by
  induction chars with
  | nil => exact .nil
  | cons char chars ih =>
    unfold lineChars
    by_cases hchar : char = '\n'
    · rw [if_pos hchar, hchar]
      exact @Stand.cons [] _ List.not_mem_nil ih
    · rw [if_neg hchar]
      generalize lineChars chars = lines at ih
      cases ih with
      | nil => exact .last (List.cons_ne_nil _ _) (by simpa using Ne.symm hchar)
      | last _ hopen => exact .last (List.cons_ne_nil _ _) (by simpa [Ne.symm hchar] using hopen)
      | @cons line _ hinside hrest =>
        exact @Stand.cons (char :: line) _ (by simpa [Ne.symm hchar] using hinside) hrest

/-- Some lines in their order still stand. -/
theorem Stand.sublist {lines kept : List (List Char)} (h : Stand lines) (hkept : kept.Sublist lines) :
    Stand kept := by
  induction h generalizing kept with
  | nil => rw [List.sublist_nil.1 hkept]; exact .nil
  | last hnonempty hopen =>
    cases hkept with
    | cons _ hkept => rw [List.sublist_nil.1 hkept]; exact .nil
    | cons_cons _ hkept => rw [List.sublist_nil.1 hkept]; exact .last hnonempty hopen
  | cons hinside _ ih =>
    cases hkept with
    | cons _ hkept => exact ih hkept
    | cons_cons _ hkept => exact .cons hinside (ih hkept)

theorem Stand.lineChars_flatten {lines : List (List Char)} (h : Stand lines) :
    lineChars lines.flatten = lines := by
  induction h with
  | nil => rfl
  | last hnonempty hopen => simp only [List.flatten_cons, List.flatten_nil, List.append_nil,
      lineChars_open hnonempty hopen]
  | cons hinside _ ih =>
    rw [List.flatten_cons, List.append_assoc, List.singleton_append, lineChars_closed hinside, ih]

/-- Some lines of a text in their order are the lines of what they come to. -/
theorem lines_join {text : String} {kept : List String} (h : kept.Sublist (lines text)) :
    lines (String.join kept) = kept := by
  obtain ⟨chosen, hchosen, rfl⟩ := List.sublist_map_iff.1 h
  have hjoin : (String.join (chosen.map String.ofList)).toList = chosen.flatten := by
    simp [String.toList_join, List.flatMap_map, List.flatMap_id']
  unfold lines
  rw [hjoin, ((stand_lineChars _).sublist hchosen).lineChars_flatten]

/-! ## The bytes of a text -/

/-- The bytes of some characters. -/
def bytesOf (chars : List Char) : List UInt8 := chars.flatMap utf8EncodeChar

theorem bytesOf_append (chars more : List Char) :
    bytesOf (chars ++ more) = bytesOf chars ++ bytesOf more := List.flatMap_append

/-- A character is one byte below 128, which is its code, or some bytes from 128 on. -/
theorem utf8EncodeChar_cases (char : Char) :
    (∃ byte : UInt8, byte < 128 ∧ utf8EncodeChar char = [byte] ∧ char = Char.ofNat byte.toNat) ∨
      ∀ byte ∈ utf8EncodeChar char, 128 ≤ byte := by
  have hsmall : ∀ n, n < 256 → (UInt8.ofNat n).toNat = n := fun n hn => by
    simp [Nat.mod_eq_of_lt hn]
  by_cases hchar : char.val.toNat ≤ 127
  · left
    have hcode : (UInt8.ofNat char.val.toNat).toNat = char.val.toNat := hsmall _ (by omega)
    refine ⟨UInt8.ofNat char.val.toNat, ?_, ?_, ?_⟩
    · rw [UInt8.lt_iff_toNat_lt, hcode]
      exact Nat.lt_succ_of_le hchar
    · unfold utf8EncodeChar
      exact if_pos hchar
    · rw [hcode]
      exact (Char.ofNat_toNat char).symm
  · right
    intro byte hbyte
    unfold utf8EncodeChar at hbyte
    simp only [if_neg hchar] at hbyte
    rw [UInt8.le_iff_toNat_le]
    show 128 ≤ byte.toNat
    split at hbyte
    · simp only [List.mem_cons, List.not_mem_nil, or_false] at hbyte
      rcases hbyte with rfl | rfl <;> rw [hsmall] <;> omega
    · split at hbyte
      · simp only [List.mem_cons, List.not_mem_nil, or_false] at hbyte
        rcases hbyte with rfl | rfl | rfl <;> rw [hsmall] <;> omega
      · simp only [List.mem_cons, List.not_mem_nil, or_false] at hbyte
        rcases hbyte with rfl | rfl | rfl | rfl <;> rw [hsmall] <;> omega

/-- What ends with a byte below 128 ends with the character of that byte. -/
theorem bytesOf_eq_concat {chars : List Char} {bytes : List UInt8} {byte : UInt8}
    (hbyte : byte < 128) (h : bytesOf chars = bytes ++ [byte]) :
    ∃ before, chars = before ++ [Char.ofNat byte.toNat] ∧ bytesOf before = bytes := by
  rcases List.eq_nil_or_concat chars with rfl | ⟨before, last, rfl⟩
  · cases bytes <;> cases h
  · rw [List.concat_eq_append, bytesOf_append] at h
    have hlast : bytesOf [last] = utf8EncodeChar last := by simp [bytesOf]
    rcases utf8EncodeChar_cases last with ⟨code, _, hcode, hchar⟩ | hhigh
    · rw [hlast, hcode] at h
      obtain ⟨hbefore, hsame⟩ := List.append_inj' h rfl
      obtain rfl := List.singleton_inj.1 hsame
      exact ⟨before, by rw [List.concat_eq_append, hchar], hbefore⟩
    · obtain hnil | ⟨front, final, hfront⟩ := List.eq_nil_or_concat (utf8EncodeChar last)
      · exact absurd hnil String.utf8EncodeChar_ne_nil
      · rw [hlast, hfront, List.concat_eq_append, ← List.append_assoc] at h
        obtain rfl := List.singleton_inj.1 (List.append_inj' h rfl).2
        have hle : 128 ≤ final := hhigh final (by simp [hfront])
        exact absurd hbyte (UInt8.not_lt.2 hle)

theorem toList_loop (bytes : ByteArray) (index : Nat) (read : List UInt8) :
    ByteArray.toList.loop bytes index read = read.reverse ++ bytes.data.toList.drop index := by
  fun_induction ByteArray.toList.loop with
  | case1 index read hindex ih =>
    have hsize : index < bytes.data.toList.length := by simpa using hindex
    have hget : bytes.get! index = bytes.data.toList[index] := by
      simp only [ByteArray.get!, Array.getElem_toList]
      exact getElem!_pos bytes.data index (by simpa using hsize)
    rw [ih, hget, List.reverse_cons, List.append_assoc, List.singleton_append,
      List.getElem_cons_drop]
  | case2 index read hindex =>
    have hsize : bytes.data.toList.length ≤ index := by simpa using Nat.le_of_not_lt hindex
    rw [List.drop_eq_nil_of_le hsize, List.append_nil]

theorem toList_toUTF8 (text : String) : text.toUTF8.toList = bytesOf text.toList := by
  have hbytes : text.toUTF8 = (bytesOf text.toList).toByteArray := by
    rw [String.toUTF8_eq_toByteArray, ← String.utf8Encode_toList]
    rfl
  rw [hbytes, ByteArray.toList, toList_loop, List.toList_data_toByteArray]
  rfl

theorem toByteArray_bytesOf (chars : List Char) :
    (bytesOf chars).toByteArray = (String.ofList chars).toUTF8 := by
  rw [String.toUTF8_eq_toByteArray, String.toByteArray_ofList]
  rfl

/-! ## The lines of an input -/

/-- Bytes that do not end a line go to the front of the next one. -/
theorem lineBytes_append {bytes : List UInt8} (hnonempty : bytes ≠ [])
    (hinside : ∀ byte ∈ bytes, byte ≠ 0x0A) (rest : List UInt8) :
    Console.lineBytes (bytes ++ rest) =
      match Console.lineBytes rest with
      | [] => [bytes]
      | line :: lines => (bytes ++ line) :: lines := by
  induction bytes with
  | nil => exact absurd rfl hnonempty
  | cons byte bytes ih =>
    rw [List.cons_append, Console.lineBytes, if_neg (hinside byte List.mem_cons_self)]
    cases bytes with
    | nil =>
      rw [List.nil_append]
      cases Console.lineBytes rest <;> rfl
    | cons next bytes =>
      rw [ih (List.cons_ne_nil _ _) fun byte h => hinside byte (List.mem_cons_of_mem _ h)]
      cases Console.lineBytes rest <;> rfl

theorem lineBytes_bytesOf (chars : List Char) :
    Console.lineBytes (bytesOf chars) = (lineChars chars).map bytesOf := by
  induction chars with
  | nil => rfl
  | cons char chars ih =>
    have hcons : bytesOf (char :: chars) = utf8EncodeChar char ++ bytesOf chars := rfl
    unfold lineChars
    by_cases hchar : char = '\n'
    · rw [if_pos hchar, hcons, hchar, List.map_cons, ← ih]
      rfl
    · have hinside : ∀ byte ∈ utf8EncodeChar char, byte ≠ 0x0A := by
        intro byte hbyte hfeed
        rcases utf8EncodeChar_cases char with ⟨code, _, hcode, hsame⟩ | hhigh
        · rw [hcode, List.mem_singleton] at hbyte
          rw [← hbyte, hfeed] at hsame
          exact hchar hsame
        · have hle := hhigh byte hbyte
          rw [hfeed] at hle
          exact absurd hle (by decide)
      rw [if_neg hchar, hcons, lineBytes_append String.utf8EncodeChar_ne_nil hinside, ih]
      cases lineChars chars with
      | nil => simp [bytesOf]
      | cons line lines => rfl

/-- The lines of a text that is put in are the lines of the text. -/
theorem linesOf_toUTF8 (text : String) :
    Console.linesOf text.toUTF8 = (lines text).map String.toUTF8 := by
  unfold Console.linesOf lines
  rw [toList_toUTF8, lineBytes_bytesOf, List.map_map, List.map_map]
  exact List.map_congr_left fun chars _ => toByteArray_bytesOf chars

/-! ## The text of a line -/

/-- Without its end, a line is what it was, or has lost a line feed and perhaps a carriage return. -/
theorem withoutEnd_cases (line : List UInt8) :
    Console.withoutEnd line = line ∨ line = Console.withoutEnd line ++ [0x0A] ∨
      line = Console.withoutEnd line ++ [0x0D] ++ [0x0A] := by
  unfold Console.withoutEnd
  split
  · next rest hreverse =>
    right; right
    simpa using congrArg List.reverse hreverse
  · next rest _ hreverse =>
    right; left
    simpa using congrArg List.reverse hreverse
  · exact Or.inl rfl

/-- Of a line in UTF-8 a text is decoded, and that is the line but for blanks at the ends. -/
theorem exists_decode_withoutEnd (line : String) :
    ∃ text, decode (Console.withoutEnd line.toUTF8.toList).toByteArray = .ok text ∧
      trim text = trim line := by
  rw [toList_toUTF8]
  suffices hchars : ∃ chars, Console.withoutEnd (bytesOf line.toList) = bytesOf chars ∧
      trimChars chars = trimChars line.toList by
    obtain ⟨chars, hbytes, htrim⟩ := hchars
    refine ⟨String.ofList chars, ?_, ?_⟩
    · rw [hbytes, toByteArray_bytesOf, decode_toUTF8]
    · unfold trim
      rw [String.toList_ofList, htrim]
  rcases withoutEnd_cases (bytesOf line.toList) with hsame | hfeed | hreturn
  · exact ⟨line.toList, hsame, rfl⟩
  · obtain ⟨before, hline, hbefore⟩ := bytesOf_eq_concat (by decide) hfeed
    refine ⟨before, hbefore.symm, ?_⟩
    rw [hline, trimChars_concat (by decide)]
  · obtain ⟨closed, hline, hclosed⟩ := bytesOf_eq_concat (by decide) hreturn
    obtain ⟨before, hopen, hbefore⟩ := bytesOf_eq_concat (by decide) hclosed
    refine ⟨before, hbefore.symm, ?_⟩
    rw [hline, trimChars_concat (by decide), hopen, trimChars_concat (by decide)]

end ScreenFlow.Text
