import ScreenFlow.Bundle
import ScreenFlow.Text.Decoding

/-!
# Failures

Why a command fails, and the report of it: what failed, then its causes, each below what it causes.
-/

namespace ScreenFlow

/-- Why a command fails. -/
inductive Failure
  | homeless
  | bundle (cause : BundleFault)
  | start (cause : ScreenNotFound)
  | render (cause : ScreenNotFound)
  | request (cause : ScreenNotFound)
  | input (cause : Text.DecodingFault)

/-- What is wrong with a text that is not read. -/
def Fault.message : Fault → String
  | .malformed => "the text is no JSON"
  | .truncated => "the text ends too early"
  | .mismatch cause => cause.message

namespace BundleFault

def summary : BundleFault → String
  | notFound path _ => "bundle not found: " ++ path
  | unreadable document _ => "failed to read bundle document: " ++ document
  | unparsable document _ => "failed to parse bundle document: " ++ document
  | unresolved _ => "failed to resolve specification"
  | assets _ => "failed to load bundle assets"

/-- The causes, each one caused by the next. -/
def causes : BundleFault → List String
  | notFound _ cause | unreadable _ cause => [cause.message]
  | unparsable _ cause => [cause.message]
  | unresolved cause => [cause.message]
  | assets cause => [cause.message, cause.cause.message]

end BundleFault

namespace Failure

def summary : Failure → String
  | homeless => "could not determine home directory"
  | bundle cause => cause.summary
  | start _ => "failed to start session"
  | render _ => "failed to render screen"
  | request _ => "failed to handle request"
  | input _ => "failed to read stdin"

/-- The causes, each one caused by the next. -/
def causes : Failure → List String
  | homeless => []
  | bundle cause => cause.causes
  | start cause | render cause | request cause => [cause.message]
  | input cause => [cause.message]

/-! ## Reports -/

/-- A text of which every line but the first is indented. -/
def hanging (width : Nat) (text : String) : String :=
  String.join <| text.toList.map fun c =>
    if c = '\n' then "\n" ++ String.ofList (List.replicate width ' ') else String.singleton c

/-- The causes, numbered from `number` on. -/
def numbered (number : Nat) : List String → List String
  | [] => []
  | cause :: causes =>
    ("    " ++ toString number ++ ": " ++ hanging 7 cause) :: numbered (number + 1) causes

/-- The lines of the causes; one alone has no number. -/
def causeLines : List String → List String
  | [cause] => ["    " ++ hanging 4 cause]
  | causes => numbered 0 causes

/-- What failed, and why. -/
def report (failure : Failure) : String :=
  match failure.causes with
  | [] => failure.summary
  | causes =>
    failure.summary ++ "\n\nCaused by:\n" ++ "\n".intercalate (causeLines causes)

end Failure

end ScreenFlow
