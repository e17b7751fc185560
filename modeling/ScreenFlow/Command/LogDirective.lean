import ScreenFlow.Session
import ScreenFlow.Text.Alphanumeric
import ScreenFlow.Text.Blank
import ScreenFlow.Text.Pattern.Automaton
import ScreenFlow.Text.Pattern.Reader

/-!
# Log directives

A directive lets reports through up to a level. It may ask for a path below which a report comes from,
for an activity within which the session reports, and for a field. Written in full it is
`path[activity{field=pattern}]=level`; what is left out asks for nothing.

A directive that names neither an activity nor a pattern is about reports. One that names an activity
or a field is about activities, and lets through what is reported within those that it fits.
-/

namespace ScreenFlow

/-! ## What directives look at -/

/-- How much each level matters; the greater, the less. -/
def Level.rank : Level → Nat
  | error => 1
  | warn => 2
  | info => 3
  | debug => 4
  | trace => 5

namespace Diagnostic

/-- The part of the program from which a diagnostic comes, as directives name it. -/
def source : Diagnostic → String
  | screenIgnored .. | resolved .. => "screenspec_resolver::resolver"
  | noRules .. | guardFailed .. | chainHalted .. | stepSkipped .. | operationStarted ..
  | fieldSkipped .. => "screenspec_runtime::engine"
  | unknownComparator .. => "screenspec_runtime::condition"
  | navigating .. | noTransition .. => "screenspec_runtime::navigation"
  | sessionStarted .. | changeIgnored | screenChanged .. | clickIgnored .. | staleRequest ..
  | componentMissing .. => "screenspec_runtime::session"
  | noAssetDirectory .. | assetsLoaded .. | candidatesLoaded .. | assetMissing .. =>
    "screenspec_runtime::asset"
  | bundleLoaded .. => "screenspec::bundle"
  | readingRequests | requestSkipped => "screenspec"

/-- The names of what a diagnostic says, its details and what is different each time. -/
def fieldNames (diagnostic : Diagnostic) : List String :=
  let passing := match diagnostic with
    | sessionStarted .. | readingRequests => ["session_id"]
    | requestSkipped => ["error"]
    | _ => []
  "message" :: passing ++ diagnostic.details.map Prod.fst

end Diagnostic

namespace Activity

/-- The part of the program in which sessions are busy. -/
def source : String := "screenspec_runtime::session"

/-- The level of all activities. -/
def level : Level := .info

def name : Activity → String
  | request => "session_request"
  | edit _ => "session_field_change"
  | action .. => "session_action"

/-- The id of a session. It is drawn at random; this one has the form of them all. -/
def sessionId : String := "00000000-0000-4000-8000-000000000000"

/-- What an activity is about, by name. -/
def fields : Activity → List (String × String)
  | request => [("session_id", sessionId)]
  | edit component => [("session_id", sessionId), ("component_id", component)]
  | action screen component =>
    [("session_id", sessionId), ("screen_id", screen), ("component_id", component)]

end Activity

/-! ## Fields -/

/-- What the value of a field has to be. -/
inductive FieldValue
  /-- A truth value or a number. The fields of activities are texts, so none has such a value. -/
  | plain (text : String)
  | like (text : String) (pattern : Text.Pattern)
  deriving DecidableEq

namespace FieldValue

/-- The text after the digits at its start, if there are any. -/
def afterDigits? : List Char → Option (List Char)
  | [] => none
  | c :: cs => if c.isDigit then some (cs.dropWhile Char.isDigit) else none

/-- Whether a text is nothing, or the exponent of a number. -/
def isExponent : List Char → Bool
  | [] => true
  | 'e' :: '+' :: cs | 'e' :: '-' :: cs | 'e' :: cs => afterDigits? cs == some []
  | _ => false

/-- Whether a text without capitals and sign is a number. -/
def isUnsigned (cs : List Char) : Bool :=
  cs ∈ ["inf".toList, "infinity".toList, "nan".toList] ||
    match afterDigits? cs, cs with
    | some ('.' :: cs), _ => isExponent ((afterDigits? cs).getD cs)
    | some cs, _ => isExponent cs
    | none, '.' :: cs => (afterDigits? cs).any isExponent
    | none, _ => false

/-- Whether a text is a truth value or a number. -/
def isPlain (text : String) : Bool :=
  text = "true" || text = "false" ||
    match text.toList.map Char.toLower with
    | '+' :: cs | '-' :: cs => isUnsigned cs
    | cs => isUnsigned cs

/-- A value; what is not plain is a pattern. -/
def ofText? (text : String) : Option FieldValue :=
  if isPlain text then some (plain text) else (Text.Pattern.ofText? text).map (like text)

/-- Whether a text is such a value. -/
def fits : FieldValue → String → Bool
  | plain _, _ => false
  | like _ pattern, text => pattern.fits text

end FieldValue

/-- What a directive asks of a field: to be there, and to have a value. -/
structure FieldTest where
  name : String
  value : Option FieldValue
  deriving DecidableEq

namespace FieldTest

/-- A name, or a name and a value. -/
def ofText? (text : String) : Option FieldTest :=
  match text.splitOn "=" with
  | name :: value :: _ => (FieldValue.ofText? value).map fun value => ⟨name, some value⟩
  | _ => if text.isEmpty then none else some ⟨text, none⟩

/-- Whether one of some fields passes. -/
def passes (test : FieldTest) (fields : List (String × String)) : Bool :=
  match fields.lookup test.name, test.value with
  | none, _ => false
  | some _, none => true
  | some text, some value => value.fits text

end FieldTest

/-! ## Directives -/

/-- What is let through: all up to a rank, as far as it is asked for. -/
structure LogDirective where
  path : Option String
  activity : Option String
  field : Option FieldTest
  rank : Nat
  deriving DecidableEq

namespace LogDirective

/-- A directive for reports from everywhere. -/
def everywhere (rank : Nat) : LogDirective := ⟨none, none, none, rank⟩

/-- Whether a directive asks for the value of a field. -/
def hasValue (directive : LogDirective) : Bool := directive.field.any (·.value.isSome)

/-- Whether a directive is about reports. -/
def isForReports (directive : LogDirective) : Bool :=
  directive.activity.isNone && !directive.hasValue

/-- Whether a directive is about activities. -/
def isForActivities (directive : LogDirective) : Bool :=
  directive.activity.isSome || directive.field.isSome

/-- Whether two directives ask for the same. -/
def asksLike (directive other : LogDirective) : Bool :=
  directive.path = other.path && directive.activity = other.activity &&
    directive.field = other.field

/-- Whether a source is below the path of a directive. -/
def covers (directive : LogDirective) (source : String) : Bool :=
  directive.path.all fun path => path.toList.isPrefixOf source.toList

/-- Whether a directive is about a diagnostic. -/
def fitsReport (directive : LogDirective) (diagnostic : Diagnostic) : Bool :=
  directive.isForReports && directive.covers diagnostic.source &&
    directive.field.all (diagnostic.fieldNames.contains ·.name)

/-- Whether a directive is about an activity. -/
def fitsActivity (directive : LogDirective) (activity : Activity) : Bool :=
  directive.isForActivities && directive.covers Activity.source &&
    directive.activity.all (· = activity.name) && directive.field.all (·.passes activity.fields)

/-- Whether one of two directives that fit the same report asks for at least as much: for a longer
path, or for a field, or for one with a greater name. -/
def asksMore (directive other : LogDirective) : Bool :=
  let length := (directive.path.map (·.length + 1)).getD 0
  let otherLength := (other.path.map (·.length + 1)).getD 0
  if length = otherLength then
    match directive.field, other.field with
    | _, none => true
    | none, some _ => false
    | some field, some otherField => !(field.name < otherField.name)
  else otherLength < length

/-! ## Texts -/

/-- The rank of each name of a level; the level that lets nothing through has rank zero. -/
def rankNames : List (String × Nat) :=
  [("off", 0), ("error", 1), ("warn", 2), ("info", 3), ("debug", 4), ("trace", 5)]

/-- The number that digits spell, a sign before them being allowed. -/
def numberOfText? (text : String) : Option Nat :=
  let digits := match text.toList with
    | '+' :: digits => digits
    | digits => digits
  if !digits.isEmpty && digits.all Char.isDigit then
    some (digits.foldl (fun number digit => 10 * number + (digit.toNat - '0'.toNat)) 0)
  else none

/-- The rank that a text names, or is. -/
def rankOfText? (text : String) : Option Nat :=
  match numberOfText? text with
  | some rank => if rank ≤ Level.trace.rank then some rank else none
  | none => rankNames.lookup (String.ofList (text.toList.map Char.toLower))

/-- Whether a path can start with a character. -/
def startsPath (c : Char) : Bool := Text.isAlphanumeric c || c = '-' || c = ':' || c = '_'

/-- Why a text is no directive. -/
inductive DirectiveFault
  | invalid
  /-- A part of the directive begins or ends within a character. -/
  | torn
  deriving DecidableEq

/-- A text without a number of bytes at its start. -/
def dropBytes : (count : Nat) → List Char → Except DirectiveFault (List Char)
  | 0, cs => .ok cs
  | _ + 1, [] => .error .torn
  | count + 1, c :: cs =>
    if c.utf8Size ≤ count + 1 then dropBytes (count + 1 - c.utf8Size) cs else .error .torn

/-- The part of a text from one number of bytes up to another one. -/
def cut (text : List Char) (first last : Nat) : Except DirectiveFault String := do
  let part ← dropBytes first text
  let rest ← dropBytes last text
  return String.ofList (part.take (part.length - rest.length))

/-- The number of bytes before the first one of some characters, and the text from it on. -/
def upTo (stops : List Char) (count : Nat) : List Char → Nat × List Char
  | [] => (count, [])
  | c :: cs => if stops.contains c then (count, c :: cs) else upTo stops (count + c.utf8Size) cs

/-- Read the level of a directive; without a name it is the one that lets everything through. -/
def withLevel (directive : LogDirective) (level : String) : Except DirectiveFault LogDirective :=
  if level.isEmpty then .ok directive
  else
    match rankOfText? level with
    | some rank => .ok { directive with rank := rank }
    | none => .error .invalid

/-- Read what follows what a directive asks for, after a number of bytes. -/
def withEnd (directive : LogDirective) (text : List Char) (count : Nat) :
    List Char → Except DirectiveFault LogDirective
  | [] => .ok directive
  | c :: _ =>
    if c = '=' then do directive.withLevel (String.ofList (← dropBytes (count + 1) text))
    else .error .invalid

/-- Read an activity and a field, between brackets of which the first is read. -/
def ofActivity (path : Option String) (text : List Char) (count : Nat) (cs : List Char) :
    Except DirectiveFault LogDirective := do
  match upTo [']', '\x7b'] count cs with
  | (_, []) => .error .invalid
  | (last, c :: cs) =>
    let name ← cut text count last
    if c = ']' then withEnd ⟨path, some name, none, Level.trace.rank⟩ text (last + 1) cs
    else
      match upTo ['\x7d'] (last + 1) cs with
      | (_, []) => .error .invalid
      | (closing, _ :: cs) =>
        match FieldTest.ofText? (← cut text (last + 1) closing), cs with
        | some field, ']' :: cs =>
          let activity := if name.isEmpty then none else some name
          withEnd ⟨path, activity, some field, Level.trace.rank⟩ text (closing + 2) cs
        | _, _ => .error .invalid

/-- A directive is a level, or what it asks for with or without a level. It is read without the blanks
at its ends, but its parts are kept from where they would stand with them: places are counted in bytes
from the start without blanks, and looked up in the text with them. -/
def ofText (text : String) : Except DirectiveFault LogDirective :=
  match Text.trimChars text.toList with
  | [] => .error .invalid
  | '[' :: cs => ofActivity none text.toList 1 cs
  | c :: cs =>
    if !startsPath c then .error .invalid
    else
      match upTo ['=', '['] 0 (c :: cs) with
      | (_, []) =>
        match rankOfText? text with
        | some rank => .ok (everywhere rank)
        | none => .ok ⟨some text, none, none, Level.trace.rank⟩
      | (count, mark :: cs) => do
        let path ← cut text.toList 0 count
        if mark = '=' then
          withEnd ⟨some path, none, none, Level.trace.rank⟩ text.toList count (mark :: cs)
        else ofActivity (some path) text.toList (count + 1) cs

end LogDirective

end ScreenFlow
