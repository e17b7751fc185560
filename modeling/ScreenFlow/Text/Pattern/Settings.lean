import ScreenFlow.Text.Blank
import ScreenFlow.Text.Folding
import ScreenFlow.Text.Pattern

/-!
# Settings of patterns

A pattern is read by settings, which it can change from a place on: whether case and lines matter, which
characters there are, and whether there may be blanks and comments between its parts.
-/

namespace ScreenFlow.Text.Pattern

/-! ## Settings -/

/-- How a pattern is read from a place on. -/
structure Settings where
  /-- Case does not matter. -/
  anyCase : Bool
  /-- Lines have a start and an end, not only the text. -/
  byLine : Bool
  /-- A dot takes the end of a line too. -/
  acrossLines : Bool
  /-- Repetitions are not eager unless a question mark follows. -/
  reluctant : Bool
  /-- Characters beyond ASCII are known. -/
  unicode : Bool
  /-- Carriage returns end lines. -/
  returns : Bool
  /-- Blanks and comments are passed over. -/
  spaced : Bool

namespace Settings

/-- The settings at the start of a pattern. -/
def usual : Settings := ⟨false, false, false, false, true, false, false⟩

/-- Turn the setting of a letter on or off. -/
def turn? (settings : Settings) (on : Bool) : Char → Option Settings
  | 'i' => some { settings with anyCase := on }
  | 'm' => some { settings with byLine := on }
  | 's' => some { settings with acrossLines := on }
  | 'U' => some { settings with reluctant := on }
  | 'u' => some { settings with unicode := on }
  | 'R' => some { settings with returns := on }
  | 'x' => some { settings with spaced := on }
  | _ => none

/-- Turn settings on, and off after a dash, up to a bracket or a colon. Nothing stands there twice,
and a dash does not stand last; `read` is what stands before, in reverse. -/
def turnAll? (settings : Settings) (read : List Char) :
    List Char → Option (Settings × List Char × List Char)
  | [] => none
  | c :: cs =>
    if c = ')' || c = ':' then
      if read.head? = some '-' then none else some (settings, read, c :: cs)
    else if read.contains c then none
    else if c = '-' then turnAll? settings (c :: read) cs
    else do turnAll? (← settings.turn? (!read.contains '-') c) (c :: read) cs

/-- The pairs of characters that are the same when case does not matter. -/
def foldings (settings : Settings) : List (Nat × Nat) :=
  if settings.unicode then Text.foldings else asciiFoldings

/-- A set as the settings have it: with all cases if case does not matter. -/
def cased (settings : Settings) (set : CharSet) : CharSet :=
  if settings.anyCase then set.withCases settings.foldings else set

/-- The complement of a set if `negated`. Without the characters beyond ASCII there is none. -/
def negatedIf? (settings : Settings) (negated : Bool) (set : CharSet) : Option CharSet :=
  if !negated then some set else if settings.unicode then some set.complement else none

/-- The characters that a dot takes. -/
def dot? (settings : Settings) : Option CharSet :=
  if !settings.unicode then none
  else if settings.acrossLines then some CharSet.empty.complement
  else if settings.returns then some ((CharSet.single '\r').union (.single '\n')).complement
  else some (CharSet.single '\n').complement

/-- The start of a line or of the text. -/
def startPlace (settings : Settings) : Place :=
  if settings.byLine then .lineStart settings.returns else .textStart

/-- The end of a line or of the text. -/
def endPlace (settings : Settings) : Place :=
  if settings.byLine then .lineEnd settings.returns else .textEnd

end Settings

/-! ## Blanks -/

/-- Pass over blanks, and over comments, which go from a number sign to the end of a line. -/
def skipSpace (inComment : Bool) : List Char → List Char
  | [] => []
  | c :: cs =>
    if inComment then skipSpace (c ≠ '\n') cs
    else if isBlank c then skipSpace false cs
    else if c = '#' then skipSpace true cs
    else c :: cs

/-- Pass over what is between the parts of a pattern. -/
def Settings.skip (settings : Settings) (cs : List Char) : List Char :=
  if settings.spaced then skipSpace false cs else cs

/-- The character after some others, without passing over them; a comment counts as its text. -/
def Settings.peek? (settings : Settings) (cs : List Char) : Option Char :=
  if settings.spaced then
    match cs.dropWhile isBlank with
    | '#' :: rest => ((rest.dropWhile isBlank).head?).or cs.head?
    | c :: _ => some c
    | [] => cs.head?
  else cs.head?

end ScreenFlow.Text.Pattern
