import ScreenFlow.Json.Members

/-!
# Diagnostics

What the program reports of its work: everything it skips or ignores, and its main steps.
-/

namespace ScreenFlow

/-- How much a diagnostic matters. -/
inductive Level
  | error
  | warn
  | info
  | debug
  | trace
  deriving DecidableEq

def Level.name : Level → String
  | error => "ERROR"
  | warn => "WARN"
  | info => "INFO"
  | debug => "DEBUG"
  | trace => "TRACE"

/-- A report of the program's work. -/
inductive Diagnostic
  -- Resolving a document
  | screenIgnored (rule screen : String)
  | resolved (screens rules transitions : Nat) (initial : String)
  -- Handling an event
  | noRules (event screen : String)
  | unknownComparator (comparator field : String)
  | guardFailed (rule : String)
  | chainHalted (rule event : String)
  | stepSkipped (rule : String)
  | operationStarted (rule operation : String)
  | fieldSkipped (key screen : String)
  | navigating (event source target : String)
  | noTransition (event source : String)
  -- A session
  | sessionStarted (screen : String)
  | changeIgnored
  | screenChanged (target : String)
  | clickIgnored (component : String)
  | staleRequest (screen active : String)
  | componentMissing (screen component : String)
  -- Assets
  | noAssetDirectory (root : String)
  | assetsLoaded (root : String) (count : Nat)
  | candidatesLoaded (root : String) (count : Nat)
  | assetMissing (file : String)
  -- The command line
  | bundleLoaded (bundle : String) (screens rules transitions assets : Nat)
  | readingRequests
  | requestSkipped
  deriving DecidableEq

namespace Diagnostic

def level : Diagnostic → Level
  | screenIgnored .. | noRules .. | unknownComparator .. | stepSkipped .. | fieldSkipped ..
  | noTransition .. | changeIgnored | clickIgnored .. | staleRequest .. | componentMissing ..
  | assetMissing .. | requestSkipped => .warn
  | navigating .. | sessionStarted .. | screenChanged .. | bundleLoaded .. | readingRequests => .info
  | resolved .. | guardFailed .. | chainHalted .. | operationStarted .. | noAssetDirectory ..
  | assetsLoaded .. | candidatesLoaded .. => .debug

def message : Diagnostic → String
  | screenIgnored .. => "screen_id ignored on global rule"
  | resolved .. => "specification resolved"
  | noRules .. => "no rules for event"
  | unknownComparator .. => "unsupported comparator, treating condition as true"
  | guardFailed .. => "guard not satisfied, skipping rule"
  | chainHalted .. => "validation failed, halting rule chain"
  | stepSkipped .. => "unsupported step type, skipping"
  | operationStarted .. => "starting operation"
  | fieldSkipped .. => "no text field bound to key, skipping"
  | navigating .. => "navigating"
  | noTransition .. => "no transition for event"
  | sessionStarted .. => "session_started"
  | changeIgnored => "field change on a component that is not a text field, ignoring"
  | screenChanged .. => "screen changed"
  | clickIgnored .. => "click on a component that is not a button, ignoring"
  | staleRequest .. => "request for inactive screen, ignoring"
  | componentMissing .. => "component not found, ignoring"
  | noAssetDirectory .. => "asset directory missing, registry empty"
  | assetsLoaded .. => "assets loaded"
  | candidatesLoaded .. => "candidate assets loaded"
  | assetMissing .. => "base64 asset not found"
  | bundleLoaded .. => "bundle loaded"
  | readingRequests => "reading requests from stdin"
  | requestSkipped => "skipping malformed request"

/-- What the diagnostic is about, by name. -/
def details : Diagnostic → List (String × Json)
  | screenIgnored rule screen => [("rule_id", .str rule), ("screen_id", .str screen)]
  | resolved screens rules transitions initial =>
    [("screens", .nat screens), ("rules", .nat rules), ("transitions", .nat transitions),
      ("initial_screen", .str initial)]
  | noRules event screen => [("event", .str event), ("screen_id", .str screen)]
  | unknownComparator comparator field => [("comparator", .str comparator), ("field", .str field)]
  | guardFailed rule => [("rule_id", .str rule)]
  | chainHalted rule event => [("rule_id", .str rule), ("event", .str event)]
  | stepSkipped rule => [("rule_id", .str rule)]
  | operationStarted rule operation => [("rule_id", .str rule), ("operation", .str operation)]
  | fieldSkipped key screen => [("field", .str key), ("screen_id", .str screen)]
  | navigating event source target =>
    [("event", .str event), ("from", .str source), ("to", .str target)]
  | noTransition event source => [("event", .str event), ("from", .str source)]
  | sessionStarted screen => [("screen_id", .str screen)]
  | changeIgnored => []
  | screenChanged target => [("to", .str target)]
  | clickIgnored component => [("component_id", .str component)]
  | staleRequest screen active => [("screen_id", .str screen), ("active_screen", .str active)]
  | componentMissing screen component =>
    [("screen_id", .str screen), ("component_id", .str component)]
  | noAssetDirectory root => [("root", .str root)]
  | assetsLoaded root count => [("root", .str root), ("assets", .nat count)]
  | candidatesLoaded root count => [("root", .str root), ("assets", .nat count)]
  | assetMissing file => [("file", .str file)]
  | bundleLoaded bundle screens rules transitions assets =>
    [("bundle", .str bundle), ("screens", .nat screens), ("rules", .nat rules),
      ("transitions", .nat transitions), ("assets", .nat assets)]
  | readingRequests | requestSkipped => []

end Diagnostic

end ScreenFlow
