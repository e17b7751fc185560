import ScreenFlow.Text.Category
import ScreenFlow.Text.Pattern.Settings

/-!
# Signs of patterns

What a character, or a backslash with what follows it, stands for in a pattern.
-/

namespace ScreenFlow.Text.Pattern

/-- What stands for a character, a set or a place. -/
inductive Sign
  | char (c : Char)
  | set (set : CharSet)
  | place (place : Place)

/-- The value of a hexadecimal digit. -/
def hexValue? (c : Char) : Option Nat :=
  if c.isDigit then some (c.toNat - 48)
  else if 'a' ≤ c.toLower && c.toLower ≤ 'f' then some (c.toLower.toNat - 87)
  else none

/-- The value of some hexadecimal digits, and what follows them. -/
def hexDigits? (settings : Settings) : (count : Nat) → (value : Nat) → List Char →
    Option (Nat × List Char)
  | 0, value, cs => some (value, cs)
  | count + 1, value, cs =>
    match settings.skip cs with
    | c :: cs => do hexDigits? settings count (16 * value + (← hexValue? c)) cs
    | [] => none

/-- A character by its code point. With two digits it may be a byte that is none. -/
def hexChar? (settings : Settings) (count : Nat) (cs : List Char) : Option (Sign × List Char) := do
  let (n, rest) ← hexDigits? settings count 0 cs
  if n.isValidChar && (settings.unicode || n < 128 || count ≠ 2) then
    some (.char (Char.ofNat n), rest)
  else none

/-- The set that a letter stands for; its capital stands for the complement. -/
def classSet? (settings : Settings) (c : Char) : Option CharSet :=
  let set (all ascii : CharSet) : Option CharSet :=
    settings.negatedIf? c.isUpper (if settings.unicode then all else ascii)
  match c.toLower with
  | 'd' => set .decimals (.run '0' '9')
  | 's' => set .blanks ((CharSet.run '\t' '\r').union (.single ' '))
  | 'w' => set .wordParts (.ofRuns [(0x30, 0x39), (0x41, 0x5A), (0x5F, 0x5F), (0x61, 0x7A)])
  | _ => none

/-- The set of a category that a letter names. -/
def categorySet? (settings : Settings) (negated : Bool) (cs : List Char) :
    Option (Sign × List Char) :=
  match settings.skip cs with
  | [] => none
  | c :: cs => do
    let category ← Category.ofLetter? c
    if !settings.unicode then none
    else some (.set (← settings.negatedIf? negated (settings.cased category.characters)), cs)

/-- A place at the edge of a word. Only words of ASCII have edges. -/
def edge? (settings : Settings) (place : Place) : Option Sign :=
  if settings.unicode then none else some (.place place)

/-- What a backslash and the character after it stand for. -/
def escape? (settings : Settings) (c : Char) : Option Sign :=
  match c with
  | 'd' | 'D' | 's' | 'S' | 'w' | 'W' => (classSet? settings c).map Sign.set
  | 'a' => some (.char '\x07')
  | 'f' => some (.char '\x0c')
  | 't' => some (.char '\t')
  | 'n' => some (.char '\n')
  | 'r' => some (.char '\r')
  | 'v' => some (.char '\x0b')
  | 'A' => some (.place .textStart)
  | 'z' => some (.place .textEnd)
  | 'b' => edge? settings .wordEdge
  | 'B' => edge? settings .noWordEdge
  | '<' => edge? settings .wordStart
  | '>' => edge? settings .wordEnd
  | c => if c.isAlphanum || 128 ≤ c.toNat then none else some (.char c)

/-- What is written with a backslash, of which all that follows it is given. -/
def escaped? (settings : Settings) : List Char → Option (Sign × List Char)
  | [] => none
  | 'x' :: cs => hexChar? settings 2 cs
  | 'u' :: cs => hexChar? settings 4 cs
  | 'U' :: cs => hexChar? settings 8 cs
  | 'p' :: cs => categorySet? settings false cs
  | 'P' :: cs => categorySet? settings true cs
  | c :: cs => (escape? settings c).map (·, cs)

end ScreenFlow.Text.Pattern
