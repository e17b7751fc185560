import ScreenFlow.Draft.Scan

/-!
# Drafts of texts

`Draft.ofText` makes the draft of a JSON text. Containers are kept up to a depth of 127; a deeper one
is passed over and stands sealed in its place. What follows a damage is only read as far as a reader
that passes the damage over would come to it.
-/

namespace ScreenFlow.Draft

/-! ## Passing over -/

mutual

/-- The text after one value. `fuel` exceeds the length of the text. -/
def skipValue : (fuel : Nat) → List Char → Except Fault (List Char)
  | 0, _ => .error .malformed
  | fuel + 1, cs =>
    match dropGap cs with
    | [] => .error .truncated
    | 'n' :: cs => scanWord ['u', 'l', 'l'] cs
    | 't' :: cs => scanWord ['r', 'u', 'e'] cs
    | 'f' :: cs => scanWord ['a', 'l', 's', 'e'] cs
    | '"' :: cs => (scanQuoted {} cs).rest
    | '[' :: cs =>
      match dropGap cs with
      | ']' :: cs => .ok cs
      | [] => .error .truncated
      | cs => skipItems fuel cs
    | '{' :: cs =>
      match dropGap cs with
      | '}' :: cs => .ok cs
      | cs => skipMembers fuel cs
    | c :: cs =>
      if c = '-' ∨ c.isDigit then (scanNumber (c :: cs)).rest else .error .malformed

/-- The text after the items of an open list. -/
def skipItems : (fuel : Nat) → List Char → Except Fault (List Char)
  | 0, _ => .error .malformed
  | fuel + 1, cs => do
    match dropGap (← skipValue fuel cs) with
    | ',' :: cs => skipItems fuel cs
    | ']' :: cs => return cs
    | cs => throw (unexpected cs)

/-- The text after the members of an open object. -/
def skipMembers : (fuel : Nat) → List Char → Except Fault (List Char)
  | 0, _ => .error .malformed
  | fuel + 1, cs => do
    match dropGap cs with
    | '"' :: cs => skipMember fuel (← (scanQuoted {} cs).rest)
    | cs => throw (unexpected cs)

/-- The text after the members of an open object, the name of the first being read. -/
def skipMember : (fuel : Nat) → List Char → Except Fault (List Char)
  | 0, _ => .error .malformed
  | fuel + 1, cs => do
    match dropGap cs with
    | ':' :: cs =>
      match dropGap (← skipValue fuel cs) with
      | ',' :: cs => skipMembers fuel cs
      | '}' :: cs => return cs
      | cs => throw (unexpected cs)
    | cs => throw (unexpected cs)

end

/-! ## Keeping -/

/-- A draft, and the text after it where there is a way to come there. -/
structure Parsed (α : Type) where
  made : α
  rest : Option (List Char)

/-- A word that stands for `value`, of which the first character is read. -/
def word (value : Draft) (first : Char) (spelled : List Char) (cs : List Char) : Parsed Draft :=
  match scanWord spelled cs with
  | .ok cs => ⟨value, some cs⟩
  | .error fault => ⟨.unfit fault (some fault) (some first), none⟩

/-- The draft of a scanned part. -/
def ofScan {α : Type} (make : α → Draft) (first : Option Char) (scan : Scan α) : Parsed Draft :=
  match scan.kept, scan.rest with
  | .ok value, .ok cs => ⟨make value, some cs⟩
  | .ok _, .error fault => ⟨.broken fault, none⟩
  | .error fault, .ok cs => ⟨.unfit fault none first, some cs⟩
  | .error fault, .error skipped => ⟨.unfit fault (some skipped) first, none⟩

/-- A container that is passed over. -/
def sealedAt (shape : Shape) : Except Fault (List Char) → Parsed Draft
  | .ok cs => ⟨.sealed shape none, some cs⟩
  | .error fault => ⟨.sealed shape (some fault), none⟩

/-- The greatest number of containers that stand in each other. -/
def maxDepth : Nat := 127

mutual

/-- One value within `depth` containers. `fuel` exceeds the length of the text. -/
def parseValue (depth : Nat) : (fuel : Nat) → List Char → Parsed Draft
  | 0, _ => ⟨.broken .malformed, none⟩
  | fuel + 1, cs =>
    match dropGap cs with
    | [] => ⟨.broken .truncated, none⟩
    | 'n' :: cs => word .null 'n' ['u', 'l', 'l'] cs
    | 't' :: cs => word (.bool true) 't' ['r', 'u', 'e'] cs
    | 'f' :: cs => word (.bool false) 'f' ['a', 'l', 's', 'e'] cs
    | '"' :: cs => ofScan .str none (scanQuoted {} cs)
    | '[' :: cs =>
      if maxDepth ≤ depth then sealedAt .sequence (skipValue fuel ('[' :: cs))
      else
        match dropGap cs with
        | ']' :: cs => ⟨.arr [] .closed, some cs⟩
        | [] => ⟨.arr [] (.cut .truncated), none⟩
        | cs =>
          let more := parseItems (depth + 1) fuel cs
          ⟨.arr more.made.1 more.made.2, more.rest⟩
    | '{' :: cs =>
      if maxDepth ≤ depth then sealedAt .map (skipValue fuel ('{' :: cs))
      else
        match dropGap cs with
        | '}' :: cs => ⟨.obj [] .closed, some cs⟩
        | cs =>
          let more := parseMembers (depth + 1) fuel cs
          ⟨.obj more.made.1 more.made.2, more.rest⟩
    | c :: cs =>
      if c = '-' ∨ c.isDigit then ofScan .num (some c) (scanNumber (c :: cs))
      else ⟨.broken .malformed, none⟩
termination_by structural fuel => fuel

/-- The items of an open list; after a comma there is always one more. -/
def parseItems (depth : Nat) : (fuel : Nat) → List Char → Parsed (List Draft × Ending)
  | 0, _ => ⟨([], .cut .malformed), none⟩
  | fuel + 1, cs =>
    let first := parseValue depth fuel cs
    match first.rest.map dropGap with
    | none => ⟨([first.made], .closed), none⟩
    | some (',' :: cs) =>
      let more := parseItems depth fuel cs
      ⟨(first.made :: more.made.1, more.made.2), more.rest⟩
    | some (']' :: cs) => ⟨([first.made], .closed), some cs⟩
    | some cs => ⟨([first.made], .cut (unexpected cs)), none⟩
termination_by structural fuel => fuel

/-- The members of an open object, a name being due. -/
def parseMembers (depth : Nat) : (fuel : Nat) → List Char → Parsed (List (String × Draft) × Ending)
  | 0, _ => ⟨([], .cut .malformed), none⟩
  | fuel + 1, cs =>
    match dropGap cs with
    | '"' :: cs =>
      let scan := scanQuoted {} cs
      match scan.kept, scan.rest with
      | .ok name, .ok cs =>
        let more := parseMember depth name fuel cs
        ⟨more.made, more.rest⟩
      | .ok _, .error fault => ⟨([], .nameless fault (some fault)), none⟩
      | .error fault, .error skipped => ⟨([], .nameless fault (some skipped)), none⟩
      | .error fault, .ok cs =>
        match skipMember fuel cs with
        | .ok cs => ⟨([], .nameless fault none), some cs⟩
        | .error skipped => ⟨([], .nameless fault (some skipped)), none⟩
    | [] => ⟨([], .nameless .truncated (some .truncated)), none⟩
    | _ :: _ => ⟨([], .nameless .malformed (some .malformed)), none⟩
termination_by structural fuel => fuel

/-- The members of an open object, the name of the first being read. -/
def parseMember (depth : Nat) (name : String) :
    (fuel : Nat) → List Char → Parsed (List (String × Draft) × Ending)
  | 0, _ => ⟨([], .cut .malformed), none⟩
  | fuel + 1, cs =>
    match dropGap cs with
    | ':' :: cs =>
      let first := parseValue depth fuel cs
      match first.rest.map dropGap with
      | none => ⟨([(name, first.made)], .closed), none⟩
      | some (',' :: cs) =>
        let more := parseMembers depth fuel cs
        ⟨((name, first.made) :: more.made.1, more.made.2), more.rest⟩
      | some ('}' :: cs) => ⟨([(name, first.made)], .closed), some cs⟩
      | some cs => ⟨([(name, first.made)], .cut (unexpected cs)), none⟩
    | cs => ⟨([(name, .broken (unexpected cs))], .closed), none⟩
termination_by structural fuel => fuel

end

/-! ## Whole texts -/

/-- The draft of a text, and the fault of what follows it. -/
def ofText (text : String) : Draft × Option Fault :=
  let cs := text.toList
  let more := parseValue 0 (3 * cs.length + 3) cs
  match more.rest with
  | some cs => (more.made, if (dropGap cs).isEmpty then none else some .malformed)
  | none => (more.made, none)

end ScreenFlow.Draft
