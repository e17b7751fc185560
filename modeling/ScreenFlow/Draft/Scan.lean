import ScreenFlow.Draft

/-!
# Words, numbers and quoted texts

The scanners of JSON's smallest parts. Each says both what a reader that keeps the part gets and where
a reader that passes it over goes on.
-/

namespace ScreenFlow.Draft

/-- What a scanner makes of a part: its value when kept, and what follows when passed over. -/
structure Scan (α : Type) where
  kept : Except Fault α
  rest : Except Fault (List Char)

/-- A part that is neither kept nor passed over. -/
def Scan.fail {α : Type} (kept : Fault) (skipped : Fault := kept) : Scan α :=
  ⟨.error kept, .error skipped⟩

/-- Blanks between the parts of a JSON text. -/
def isGap (c : Char) : Bool := c == ' ' || c == '\n' || c == '\t' || c == '\r'

/-- The text after the blanks. -/
def dropGap (cs : List Char) : List Char := cs.dropWhile isGap

/-- What an unexpected part of a text is: its end, or a wrong character. -/
def unexpected : List Char → Fault
  | [] => .truncated
  | _ :: _ => .malformed

/-- The rest of a word. -/
def scanWord : (word : List Char) → List Char → Except Fault (List Char)
  | [], cs => .ok cs
  | _ :: _, [] => .error .truncated
  | w :: word, c :: cs => if w = c then scanWord word cs else .error .malformed

/-! ## Quoted texts -/

/-- The value of a hexadecimal digit. -/
def hexValue (c : Char) : Option Nat :=
  if '0' ≤ c ∧ c ≤ '9' then some (c.toNat - '0'.toNat)
  else if 'a' ≤ c ∧ c ≤ 'f' then some (c.toNat - 'a'.toNat + 10)
  else if 'A' ≤ c ∧ c ≤ 'F' then some (c.toNat - 'A'.toNat + 10)
  else none

/-- The value of four hexadecimal digits. -/
def hexFour (a b c d : Char) : Option Nat := do
  return (((← hexValue a) * 16 + (← hexValue b)) * 16 + (← hexValue c)) * 16 + (← hexValue d)

/-- The character of a one-letter escape. -/
def escaped (c : Char) : Option Char :=
  if c = '"' ∨ c = '\\' ∨ c = '/' then some c
  else if c = 'b' then some '\x08'
  else if c = 'f' then some '\x0c'
  else if c = 'n' then some '\n'
  else if c = 'r' then some '\r'
  else if c = 't' then some '\t'
  else none

/-- The text read so far, last character first, and the leading surrogate that waits for its
trailing one. -/
structure Spelling where
  kept : Except Fault (List Char) := .ok []
  leading : Option Nat := none

/-- Nothing but a trailing surrogate may follow a leading one. -/
def Spelling.settled (spelling : Spelling) : Except Fault (List Char) :=
  if spelling.leading.isSome then spelling.kept.bind fun _ => .error .malformed else spelling.kept

/-- One more character. -/
def Spelling.push (spelling : Spelling) (c : Char) : Spelling :=
  ⟨spelling.settled.map (c :: ·), none⟩

/-- One more unit from an escape; two surrogates make a character. -/
def Spelling.pushUnit (spelling : Spelling) (unit : Nat) : Spelling :=
  if 0xDC00 ≤ unit ∧ unit ≤ 0xDFFF then
    match spelling.leading with
    | some leading =>
      let c := Char.ofNat ((leading - 0xD800) * 0x400 + (unit - 0xDC00) + 0x10000)
      ⟨spelling.kept.map (c :: ·), none⟩
    | none => ⟨spelling.kept.bind fun _ => .error .malformed, none⟩
  else if 0xD800 ≤ unit ∧ unit ≤ 0xDBFF then ⟨spelling.settled, some unit⟩
  else spelling.push (Char.ofNat unit)

/-- The spelling meets a fault that also stops a reader that passes it over. -/
def Spelling.stop (spelling : Spelling) (fault : Fault) : Scan String :=
  ⟨spelling.kept.bind fun _ => .error fault, .error fault⟩

/-- A text up to its closing quote. An escape `\u` needs four more bytes, and they are hexadecimal
digits. -/
def scanQuoted (spelling : Spelling) : List Char → Scan String
  | [] => spelling.stop .truncated
  | '"' :: cs => ⟨spelling.settled.map fun read => String.ofList read.reverse, .ok cs⟩
  | '\\' :: 'u' :: a :: b :: c :: d :: cs =>
    match hexFour a b c d with
    | some unit => scanQuoted (spelling.pushUnit unit) cs
    | none => spelling.stop .malformed
  | '\\' :: 'u' :: cs =>
    spelling.stop (if (String.ofList cs).utf8ByteSize < 4 then .truncated else .malformed)
  | ['\\'] => spelling.stop .truncated
  | '\\' :: c :: cs =>
    match escaped c with
    | some c => scanQuoted (spelling.push c) cs
    | none => ⟨spelling.settled.bind fun _ => .error .malformed, .error .malformed⟩
  | c :: cs =>
    if c.toNat < 0x20 then
      ⟨spelling.settled.bind fun _ => .error .malformed, .error .malformed⟩
    else scanQuoted (spelling.push c) cs

/-! ## Numbers -/

/-- The digits at the front, and what follows them. -/
def scanDigits (cs : List Char) : List Nat × List Char :=
  ((cs.takeWhile Char.isDigit).map fun c => c.toNat - '0'.toNat, cs.dropWhile Char.isDigit)

/-- A run of digits, as many as 64 bits hold: their value, and the number of those left out. -/
def significand (start : Nat) : List Nat → Nat × Nat
  | [] => (start, 0)
  | digit :: digits =>
    if start * 10 + digit < Nat.pow 2 64 then significand (start * 10 + digit) digits
    else (start, digits.length + 1)

/-- The number of a sign, the digits before and after the point, and an exponent. -/
def floatNumber (negative : Bool) (whole fraction : List Nat) (exponent : Int) :
    Except Fault Number :=
  let (start, dropped) := significand 0 whole
  let (digits, left) := significand start fraction
  let places : Int := fraction.length - left
  match Binary64.ofDecimal negative (UInt64.ofNat digits) (dropped - places + exponent) with
  | some value => .ok (.float value)
  | none => .error .malformed

/-- The natural number of a run of digits. -/
def naturalOf (digits : List Nat) : Nat := digits.foldl (fun value digit => value * 10 + digit) 0

/-- A number without point and exponent: an integer if 64 bits hold it, and not a negative zero. -/
def wholeNumber (negative : Bool) (whole : List Nat) : Except Fault Number :=
  let value := naturalOf whole
  if negative then
    if 0 < value ∧ value ≤ Nat.pow 2 63 then .ok (.int (-value)) else floatNumber true whole [] 0
  else if value < Nat.pow 2 64 then .ok (.int value)
  else floatNumber false whole [] 0

/-- The exponent after `e`. -/
def scanExponent (cs : List Char) : Scan Int :=
  let (negative, cs) :=
    match cs with
    | '+' :: cs => (false, cs)
    | '-' :: cs => (true, cs)
    | cs => (false, cs)
  match scanDigits cs with
  | ([], rest) => .fail (unexpected rest) .malformed
  | (digits, rest) =>
    let value : Int := naturalOf digits
    ⟨.ok (if negative then -value else value), .ok rest⟩

/-- What may follow the digits of a number: an exponent. -/
def scanScaled (negative : Bool) (whole fraction : List Nat) : List Char → Scan Number
  | [] => ⟨floatNumber negative whole fraction 0, .ok []⟩
  | c :: cs =>
    if c = 'e' ∨ c = 'E' then
      let scan := scanExponent cs
      ⟨scan.kept.bind (floatNumber negative whole fraction), scan.rest⟩
    else ⟨floatNumber negative whole fraction 0, .ok (c :: cs)⟩

/-- A number after its sign. -/
def scanUnsigned (negative : Bool) (cs : List Char) : Scan Number :=
  match scanDigits cs with
  | ([], rest) => .fail (unexpected rest) .malformed
  | (0 :: _ :: _, _) => .fail .malformed
  | (whole, '.' :: rest) =>
    match scanDigits rest with
    | ([], rest) => .fail (unexpected rest) .malformed
    | (fraction, rest) => scanScaled negative whole fraction rest
  | (whole, c :: rest) =>
    if c = 'e' ∨ c = 'E' then scanScaled negative whole [] (c :: rest)
    else ⟨wholeNumber negative whole, .ok (c :: rest)⟩
  | (whole, []) => ⟨wholeNumber negative whole, .ok []⟩

/-- A number. -/
def scanNumber : List Char → Scan Number
  | '-' :: cs => scanUnsigned true cs
  | cs => scanUnsigned false cs

end ScreenFlow.Draft
