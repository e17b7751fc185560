import ScreenFlow.Command.LogDirective
import ScreenFlow.Json.Printer

/-!
# Log filters

A filter is a list of directives. A report is let through by an activity within which it is made, or
by what the directives for reports say of it: of those that fit, the one that asks for most decides,
and of two that ask for the same, the later one. A report for which there is none is dropped.
-/

namespace ScreenFlow

/-- A diagnostic on one line. -/
def Diagnostic.text (diagnostic : Diagnostic) : String :=
  diagnostic.level.name ++ " " ++ diagnostic.message ++
    String.join (diagnostic.details.map fun detail => " " ++ detail.1 ++ "=" ++ detail.2.compact)

/-- What is let through of the diagnostics. -/
structure LogFilter where
  directives : List LogDirective
  deriving DecidableEq

namespace LogFilter

/-! ## Texts -/

/-- A filter of one level. -/
def ofLevel (level : Level) : LogFilter := ⟨[.everywhere level.rank]⟩

/-- A list of directives between commas. A list of none lets errors through. -/
def ofText (text : String) : Except LogDirective.DirectiveFault LogFilter := do
  let directives ← ((text.splitOn ",").filter (!·.isEmpty)).mapM LogDirective.ofText
  return if directives.isEmpty then ofLevel .error else ⟨directives⟩

/-- The filter for a number of requests to say more. -/
def ofVerbosity : Nat → LogFilter
  | 0 => ofLevel .warn
  | 1 => ofLevel .info
  | 2 => ofLevel .debug
  | _ => ofLevel .trace

/-- The filter that the environment asks for, or the one for a verbosity if that is invalid. There is
none if a directive is torn. -/
def choose (environment : Option String) (verbosity : Nat) : Option LogFilter :=
  match environment.map ofText with
  | some (.ok filter) => some filter
  | some (.error .torn) => none
  | some (.error .invalid) | none => some (ofVerbosity verbosity)

/-! ## Reports -/

/-- The better one of two directives; the later one where they are equal. -/
def better (best : Option LogDirective) (other : LogDirective) : Option LogDirective :=
  match best with
  | none => some other
  | some best => if other.asksMore best then some other else some best

/-- The rank up to which a diagnostic is let through for its own sake. -/
def rankFor (filter : LogFilter) (diagnostic : Diagnostic) : Nat :=
  (((filter.directives.filter (·.fitsReport diagnostic)).foldl better none).map (·.rank)).getD 0

/-! ## Activities -/

/-- The directives for which there is no later one that asks for the same. -/
def standing : List LogDirective → List LogDirective
  | [] => []
  | directive :: directives =>
    if directives.any directive.asksLike then standing directives
    else directive :: standing directives

/-- The rank up to which all is let through that is reported within an activity. -/
def rankWithin (filter : LogFilter) (activity : Activity) : Nat :=
  ((standing filter.directives).filter (·.fitsActivity activity)).foldl
    (fun rank directive => max rank directive.rank) 0

/-- The greatest rank of all directives. Whether a field has a value is not known before, so a
directive that asks for one counts as the greatest. -/
def loudest (filter : LogFilter) : Nat :=
  filter.directives.foldl
    (fun rank directive =>
      max rank (if directive.hasValue then Level.trace.rank else directive.rank)) 0

/-- Whether activities are told from each other at all: none is when all directives are for more
urgent levels than theirs. -/
def minds (filter : LogFilter) : Bool := Activity.level.rank ≤ filter.loudest

/-- Whether a diagnostic is let through, with what the session is busy with. -/
def admits (filter : LogFilter) (diagnostic : Diagnostic) (during : List Activity) : Bool :=
  diagnostic.level.rank ≤ filter.rankFor diagnostic ||
    (filter.minds && during.any (diagnostic.level.rank ≤ filter.rankWithin ·))

end LogFilter

end ScreenFlow
