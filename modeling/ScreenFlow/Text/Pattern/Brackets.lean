import ScreenFlow.Text.Pattern.Sign

/-!
# Reading patterns: sets in brackets

A set in brackets lists characters, runs of them, and other sets. Lists can be combined by signs that
are written twice, from left to right; all signs bind alike.

Patterns must not be nested too deeply, so the depth of what is read is kept with it.
-/

namespace ScreenFlow.Text.Pattern

/-- A set, and how deeply it is nested. -/
structure Nested where
  set : CharSet
  depth : Nat

/-- A list of sets: all their characters, their number, and how deeply they are nested. -/
structure Listed where
  set : CharSet
  count : Nat
  depth : Nat

namespace Listed

def nothing : Listed := ⟨.empty, 0, 0⟩

def add (listed : Listed) (nested : Nested) : Listed :=
  ⟨listed.set.union nested.set, listed.count + 1, max listed.depth nested.depth⟩

/-- A list as a set; more than one entry nests deeper. -/
def nested (listed : Listed) : Nested :=
  ⟨listed.set, if 1 < listed.count then listed.depth + 1 else listed.depth⟩

end Listed

/-- How two lists are combined. -/
inductive Combination
  | both
  | without
  | onlyOne

namespace Combination

/-- The combination of a sign. -/
def ofSign? : Char → Option Combination
  | '&' => some both
  | '-' => some without
  | '~' => some onlyOne
  | _ => none

def apply : Combination → CharSet → CharSet → CharSet
  | both => .intersection
  | without => .difference
  | onlyOne => .symmetricDifference

end Combination

/-- What has been read in brackets: lists that are combined already, and the current list. -/
structure Bracket where
  before : Option (Nested × Combination)
  listed : Listed

namespace Bracket

def start : Bracket := ⟨none, .nothing⟩

def add (bracket : Bracket) (nested : Nested) : Bracket :=
  { bracket with listed := bracket.listed.add nested }

/-- The combination of all lists. -/
def combined (bracket : Bracket) (settings : Settings) : Nested :=
  let last := bracket.listed.nested
  match bracket.before with
  | none => last
  | some (first, combination) =>
    ⟨combination.apply (settings.cased first.set) (settings.cased last.set),
      max first.depth last.depth + 1⟩

/-- Begin a new list. -/
def combine (bracket : Bracket) (settings : Settings) (combination : Combination) : Bracket :=
  ⟨some (bracket.combined settings, combination), .nothing⟩

/-- The set of the brackets. -/
def close? (bracket : Bracket) (settings : Settings) (negated : Bool) : Option Nested := do
  let combined := bracket.combined settings
  return ⟨← settings.negatedIf? negated (settings.cased combined.set), combined.depth + 1⟩

end Bracket

/-! ## Entries -/

/-- The named sets of ASCII. -/
def namedSet? : String → Option CharSet
  | "alnum" => some (.ofRuns [(0x30, 0x39), (0x41, 0x5A), (0x61, 0x7A)])
  | "alpha" => some (.ofRuns [(0x41, 0x5A), (0x61, 0x7A)])
  | "ascii" => some (.ofRuns [(0x0, 0x7F)])
  | "blank" => some (.ofRuns [(0x9, 0x9), (0x20, 0x20)])
  | "cntrl" => some (.ofRuns [(0x0, 0x1F), (0x7F, 0x7F)])
  | "digit" => some (.ofRuns [(0x30, 0x39)])
  | "graph" => some (.ofRuns [(0x21, 0x7E)])
  | "lower" => some (.ofRuns [(0x61, 0x7A)])
  | "print" => some (.ofRuns [(0x20, 0x7E)])
  | "punct" => some (.ofRuns [(0x21, 0x2F), (0x3A, 0x40), (0x5B, 0x60), (0x7B, 0x7E)])
  | "space" => some (.ofRuns [(0x9, 0xD), (0x20, 0x20)])
  | "upper" => some (.ofRuns [(0x41, 0x5A)])
  | "word" => some (.ofRuns [(0x30, 0x39), (0x41, 0x5A), (0x5F, 0x5F), (0x61, 0x7A)])
  | "xdigit" => some (.ofRuns [(0x30, 0x39), (0x41, 0x46), (0x61, 0x66)])
  | _ => none

/-- A named set between colons, of which the first bracket is read: the set, whether its complement is
meant, and what follows. -/
def named? : List Char → Option (CharSet × Bool × List Char)
  | ':' :: cs =>
    let (negated, cs) := match cs with
      | '^' :: cs => (true, cs)
      | cs => (false, cs)
    match cs.dropWhile (· ≠ ':') with
    | ':' :: ']' :: rest => do
      return (← namedSet? (String.ofList (cs.takeWhile (· ≠ ':'))), negated, rest)
    | _ => none
  | _ => none

/-- A character, or what is written with a backslash. -/
def sign? (settings : Settings) : List Char → Option (Sign × List Char)
  | [] => none
  | '\\' :: cs => escaped? settings cs
  | c :: cs => some (.char c, cs)

/-- The characters from one up to another one. -/
def runSet? (settings : Settings) (first last : Char) : Option CharSet :=
  if first ≤ last && (settings.unicode || last.toNat < 128) then some (.run first last) else none

/-- The set of a sign; a place is none. -/
def Sign.set? (settings : Settings) : Sign → Option CharSet
  | char c => runSet? settings c c
  | set chars => some chars
  | place _ => none

/-- A sign, or a run of characters from one sign up to another one. A dash before the end of the list
is a character. -/
def entry? (settings : Settings) (cs : List Char) : Option (CharSet × List Char) := do
  let (first, rest) ← sign? settings cs
  match settings.skip rest with
  | [] => none
  | c :: rest =>
    let next := settings.peek? rest
    if c ≠ '-' || next = some ']' || next = some '-' then
      return (← first.set? settings, c :: rest)
    else
      match first, ← sign? settings (settings.skip rest) with
      | .char first, (.char last, rest) => return (← runSet? settings first last, rest)
      | _, _ => none

/-! ## Brackets -/

/-- The dashes with which a list begins. -/
def leadingDashes (settings : Settings) (bracket : Bracket) : (fuel : Nat) → List Char →
    Bracket × List Char
  | 0, cs => (bracket, cs)
  | fuel + 1, cs =>
    match cs with
    | '-' :: cs => leadingDashes settings (bracket.add ⟨.single '-', 0⟩) fuel (settings.skip cs)
    | cs => (bracket, cs)

mutual

/-- A set in brackets, of which the first bracket is read. A bracket that closes is a character where
nothing stands before it. `fuel` exceeds twice the length of the text. -/
def bracketed? (settings : Settings) : (fuel : Nat) → List Char → Option (Nested × List Char)
  | 0, _ => none
  | fuel + 1, cs =>
    let (negated, cs) := match settings.skip cs with
      | '^' :: cs => (true, settings.skip cs)
      | cs => (false, cs)
    match leadingDashes settings .start cs.length cs with
    | (⟨none, ⟨_, 0, _⟩⟩, ']' :: cs) =>
      entries? settings negated (Bracket.start.add ⟨.single ']', 0⟩) fuel (settings.skip cs)
    | (bracket, cs) => entries? settings negated bracket fuel cs

/-- The rest of a set in brackets. -/
def entries? (settings : Settings) (negated : Bool) (bracket : Bracket) :
    (fuel : Nat) → List Char → Option (Nested × List Char)
  | 0, _ => none
  | fuel + 1, cs =>
    match settings.skip cs with
    | [] => none
    | ']' :: cs => do return (← bracket.close? settings negated, cs)
    | '[' :: cs =>
      match named? cs with
      | some (set, other, cs) => do
        let set ← settings.negatedIf? other (settings.cased set)
        entries? settings negated (bracket.add ⟨set, 0⟩) fuel cs
      | none => do
        let (nested, cs) ← bracketed? settings fuel cs
        entries? settings negated (bracket.add nested) fuel cs
    | c :: cs =>
      match (if cs.head? = some c then Combination.ofSign? c else none) with
      | some combination =>
        entries? settings negated (bracket.combine settings combination) fuel cs.tail
      | none => do
        let (set, cs) ← entry? settings (c :: cs)
        entries? settings negated (bracket.add ⟨set, 0⟩) fuel cs

end

end ScreenFlow.Text.Pattern
