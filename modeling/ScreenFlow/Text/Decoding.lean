/-!
# Decoding UTF-8

Bytes are a text, or they stop being UTF-8 at a character that is not well formed or that the end of
the bytes cuts off. Where bytes are shown all the same, each stretch that is no character is replaced
by a sign for it.
-/

namespace ScreenFlow.Text

/-- Where bytes stop being UTF-8. -/
inductive DecodingFault
  /-- No character starts with the `count` bytes from `index` on and the byte after them. -/
  | invalid (index count : Nat)
  /-- The bytes end inside of the character that starts at `index`. -/
  | incomplete (index : Nat)
  deriving DecidableEq

def DecodingFault.message : DecodingFault → String
  | invalid index count =>
    "invalid utf-8 sequence of " ++ toString count ++ " bytes from index " ++ toString index
  | incomplete index => "incomplete utf-8 byte sequence from index " ++ toString index

/-- The bounds of a byte that goes on with a character. -/
def continuation : UInt8 × UInt8 := (0x80, 0xBF)

/-- The bounds of the bytes after the first one of a character. -/
def continuations? (first : UInt8) : Option (List (UInt8 × UInt8)) :=
  if first < 0x80 then some []
  else if first < 0xC2 then none
  else if first < 0xE0 then some [continuation]
  else if first = 0xE0 then some [(0xA0, 0xBF), continuation]
  else if first = 0xED then some [(0x80, 0x9F), continuation]
  else if first < 0xF0 then some [continuation, continuation]
  else if first = 0xF0 then some [(0x90, 0xBF), continuation, continuation]
  else if first < 0xF4 then some [continuation, continuation, continuation]
  else if first = 0xF4 then some [(0x80, 0x8F), continuation, continuation]
  else none

/-- The fault of bytes that are no text, from `index` on, inside of a character that starts at
`start` and goes on with bytes within `bounds`. -/
def faultFrom (start index : Nat) (bounds : List (UInt8 × UInt8)) : List UInt8 → DecodingFault
  | [] => .incomplete start
  | byte :: bytes =>
    match bounds with
    | (low, high) :: bounds =>
      if low ≤ byte ∧ byte ≤ high then faultFrom start (index + 1) bounds bytes
      else .invalid start (index - start)
    | [] =>
      match continuations? byte with
      | some bounds => faultFrom index (index + 1) bounds bytes
      | none => .invalid index 1

/-- The text of bytes. -/
def decode (bytes : ByteArray) : Except DecodingFault String :=
  match String.fromUTF8? bytes with
  | some text => .ok text
  | none => .error (faultFrom 0 0 [] bytes.toList)

/-- The bytes of a text are that text. -/
@[simp] theorem decode_toUTF8 (text : String) : decode text.toUTF8 = .ok text := by
  have h : String.fromUTF8? text.toUTF8 = some text := by
    simp only [String.fromUTF8?, String.toUTF8_eq_toByteArray, dif_pos text.isValidUTF8]
    rfl
  rw [decode, h]

/-- What is shown in place of bytes that are no character. -/
def replacement : List UInt8 := [0xEF, 0xBF, 0xBD]

/-- Bytes with a replacement for each stretch that is no character; `begun` are bytes of a character
that goes on with bytes within `bounds`. -/
def repairFrom (begun : List UInt8) (bounds : List (UInt8 × UInt8)) : List UInt8 → List UInt8
  | [] => if begun.isEmpty then [] else replacement
  | byte :: bytes =>
    let anew :=
      match continuations? byte with
      | none => replacement ++ repairFrom [] [] bytes
      | some [] => byte :: repairFrom [] [] bytes
      | some bounds => repairFrom [byte] bounds bytes
    match bounds with
    | [] => anew
    | (low, high) :: bounds =>
      if low ≤ byte ∧ byte ≤ high then
        if bounds.isEmpty then begun ++ byte :: repairFrom [] [] bytes
        else repairFrom (begun ++ [byte]) bounds bytes
      else replacement ++ anew

/-- The text that is shown for bytes. -/
def repair (bytes : ByteArray) : String :=
  match decode bytes with
  | .ok text => text
  | .error _ => (String.fromUTF8? (repairFrom [] [] bytes.toList).toByteArray).getD ""

end ScreenFlow.Text
