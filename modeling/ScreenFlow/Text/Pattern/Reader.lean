import ScreenFlow.Text.Pattern.Brackets

/-!
# Reading patterns

A pattern is a choice between branches, and a branch is a sequence of parts, which are characters,
sets, places and groups, each with its repetitions. A group is a pattern between round brackets;
settings that are made in a group end with it. Repetitions are not counted, so a curly bracket has
to be written with a backslash.
-/

namespace ScreenFlow.Text.Pattern

/-- Where the reading of a pattern is: what follows, the settings there, and the groups so far with
the names that some of them have. -/
structure Cursor where
  rest : List Char
  settings : Settings
  groups : Nat
  names : List (List Char)

/-- A part of a pattern, with the depth of its nesting, and whether it can be repeated. -/
structure Part where
  pattern : Pattern
  depth : Nat
  isRepeatable : Bool

namespace Part

/-- Parts put together by `join`, which nests them unless there is only one. -/
def together (join : List Pattern → Pattern) (parts : List Part) : Part :=
  ⟨join (parts.map pattern), (parts.map depth).foldl max 0 + (if 1 < parts.length then 1 else 0),
    true⟩

/-- What a sign stands for, between other parts. -/
def ofSign (settings : Settings) : Sign → Part
  | .char c => ⟨.one (settings.cased (.single c)), 0, true⟩
  | .set set => ⟨.one set, 0, true⟩
  | .place asked => ⟨.place asked, 0, true⟩

/-- The part repeated as a sign says. -/
def repeated? (part : Part) (sign : Char) (eager : Bool) : Option Part :=
  let nested (pattern : Pattern) : Option Part := some ⟨pattern, part.depth + 1, true⟩
  if !part.isRepeatable then none
  else
    match sign with
    | '?' => nested (.optional part.pattern eager)
    | '*' => nested (part.pattern.anyTimes eager)
    | '+' => nested (part.pattern.someTimes eager)
    | _ => none

end Part

namespace Cursor

def start (text : List Char) : Cursor := ⟨text, .usual, 0, []⟩

/-- The cursor before another text. -/
def before (cursor : Cursor) (rest : List Char) : Cursor := { cursor with rest := rest }

/-- Pass over what is between parts. -/
def skip (cursor : Cursor) : Cursor := cursor.before (cursor.settings.skip cursor.rest)

/-! ## Groups -/

/-- Whether a character can be in the name of a group. -/
def isInName (isFirst : Bool) (c : Char) : Bool :=
  c = '_' ||
    if isFirst then CharSet.alphabetics.contains c
    else c ∈ ['.', '[', ']'] || isAlphanumeric c

/-- The beginning of a group: what comes next, and the index of a group that has one. None is begun by
settings that stand alone. -/
inductive Opening
  | group (index : Option Nat)
  | settings

/-- Begin a group with an index. -/
def openGroup (cursor : Cursor) : Opening × Cursor :=
  (.group (some cursor.groups), { cursor with groups := cursor.groups + 1 })

/-- Begin a group with a name, which no other one has. -/
def openNamed? (cursor : Cursor) : Option (Opening × Cursor) :=
  let name := cursor.rest.takeWhile (· ≠ '>')
  match cursor.rest.dropWhile (· ≠ '>'), name with
  | _ :: rest, c :: cs =>
    if isInName true c && cs.all (isInName false) && !cursor.names.contains name then
      some { cursor with rest := rest, names := name :: cursor.names }.openGroup
    else none
  | _, _ => none

/-- Begin a group, of which the bracket is read. Groups that look around are none. -/
def open? (cursor : Cursor) : Option (Opening × Cursor) :=
  let cursor := cursor.skip
  match cursor.rest with
  | '?' :: 'P' :: '<' :: rest => (cursor.before rest).openNamed?
  | '?' :: '<' :: c :: rest =>
    if c = '=' || c = '!' then none else (cursor.before (c :: rest)).openNamed?
  | '?' :: rest => do
    let (settings, read, rest) ← cursor.settings.turnAll? [] rest
    match rest with
    | ':' :: rest => return (.group none, { cursor.before rest with settings := settings })
    | _ =>
      if read.isEmpty then none
      else return (.settings, { cursor.before rest.tail with settings := settings })
  | _ => some cursor.openGroup

/-- End a group; the settings are again those from outside of it. -/
def close? (cursor : Cursor) (outside : Settings) : Option Cursor :=
  match cursor.rest with
  | ')' :: rest => some { cursor.before rest with settings := outside }
  | _ => none

/-! ## Parts -/

/-- Repeat the last part, in front of the others, as a sign and the question mark after it say. -/
def repeat? (cursor : Cursor) (sign : Char) (parts : List Part) : Option (List Part × Cursor) :=
  match parts with
  | [] => none
  | part :: parts => do
    let (lazily, rest) := match cursor.rest with
      | '?' :: rest => (true, rest)
      | rest => (false, rest)
    let part ← part.repeated? sign (lazily == cursor.settings.reluctant)
    return (part :: parts, cursor.before rest)

/-- A character that is no sign of its own, a dot, a place, or what is written with a backslash. -/
def single? (cursor : Cursor) : Option (Part × Cursor) :=
  match cursor.rest with
  | [] => none
  | '.' :: rest => do
    return (⟨.one (← cursor.settings.dot?), 0, true⟩, cursor.before rest)
  | '^' :: rest => some (⟨.place cursor.settings.startPlace, 0, true⟩, cursor.before rest)
  | '$' :: rest => some (⟨.place cursor.settings.endPlace, 0, true⟩, cursor.before rest)
  | cs => do
    let (sign, rest) ← sign? cursor.settings cs
    return (.ofSign cursor.settings sign, cursor.before rest)

mutual

/-- The rest of a branch, after some parts in reverse. `fuel` exceeds thrice the length of the text. -/
def branch? : (fuel : Nat) → Cursor → List Part → Option (Part × Cursor)
  | 0, _, _ => none
  | fuel + 1, cursor, parts =>
    let cursor := cursor.skip
    match cursor.rest with
    | [] | '|' :: _ | ')' :: _ => some (.together .inSequence parts.reverse, cursor)
    | '(' :: rest => do
      match ← (cursor.before rest).open? with
      | (.settings, cursor) => branch? fuel cursor (⟨.empty, 0, false⟩ :: parts)
      | (.group index, opened) =>
        let (inner, closing) ← choice? fuel opened []
        let pattern := match index with
          | some index => .group index inner.pattern
          | none => inner.pattern
        branch? fuel (← closing.close? cursor.settings) (⟨pattern, inner.depth + 1, true⟩ :: parts)
    | '[' :: rest => do
      let (nested, rest) ← bracketed? cursor.settings (2 * rest.length + 2) rest
      branch? fuel (cursor.before rest) (⟨.one nested.set, nested.depth, true⟩ :: parts)
    | '\x7b' :: _ => none
    | c :: rest =>
      if c ∈ ['?', '*', '+'] then do
        let (parts, cursor) ← (cursor.before rest).repeat? c parts
        branch? fuel cursor parts
      else do
        let (part, cursor) ← cursor.single?
        branch? fuel cursor (part :: parts)

/-- The rest of a choice, after some branches in reverse. -/
def choice? : (fuel : Nat) → Cursor → List Part → Option (Part × Cursor)
  | 0, _, _ => none
  | fuel + 1, cursor, branches => do
    let (branch, cursor) ← branch? fuel cursor []
    match cursor.rest with
    | '|' :: rest => choice? fuel (cursor.before rest) (branch :: branches)
    | _ => return (.together .anyOf (branch :: branches).reverse, cursor)

end

end Cursor

/-! ## Patterns -/

/-- How deeply patterns can be nested. -/
def nestingLimit : Nat := 250

/-- The pattern that a text spells. -/
def ofText? (text : String) : Option Pattern :=
  let cs := text.toList
  match Cursor.choice? (3 * cs.length + 3) (.start cs) [] with
  | some (whole, ⟨[], _, _, _⟩) => if whole.depth ≤ nestingLimit then some whole.pattern else none
  | _ => none

example : (ofText? "a|").isSome ∧ (ofText? "(?:a)??").isSome ∧ (ofText? "[]-]").isSome := by
  decide +kernel

example : ofText? "(a" = none ∧ ofText? "a**+" ≠ none ∧ ofText? "*" = none ∧ ofText? "\\b" = none := by
  decide +kernel

end ScreenFlow.Text.Pattern
