import ScreenFlow.Text.CharSet

/-!
# Patterns

Regular expressions, in a form without idle parts: sequences and choices lean to the right, a choice
between characters is one set, and what all branches of a choice begin with stands before it.
The order of branches matters, since the first way in which a text can be taken counts.
-/

namespace ScreenFlow.Text

/-- What is asked of a place in a text; only words of ASCII are looked at. The ends of lines are line
feeds, and with `returns` carriage returns too, both together being one end. -/
inductive Place
  | textStart
  | textEnd
  | lineStart (returns : Bool)
  | lineEnd (returns : Bool)
  | wordEdge
  | noWordEdge
  | wordStart
  | wordEnd
  deriving DecidableEq

/-- A regular expression. An `eager` repetition goes on for as long as it can. -/
inductive Pattern
  | empty
  | one (set : CharSet)
  | place (place : Place)
  | sequence (first rest : Pattern)
  | choice (first rest : Pattern)
  | optional (inner : Pattern) (eager : Bool)
  | star (inner : Pattern) (eager : Bool)
  | plus (inner : Pattern) (eager : Bool)
  | group (index : Nat) (inner : Pattern)
  deriving DecidableEq

namespace Pattern

/-! ## Sequences -/

/-- The parts of a pattern that follow each other. -/
def parts : Pattern → List Pattern
  | empty => []
  | sequence first rest => first.parts ++ rest.parts
  | pattern => [pattern]

/-- A sequence of parts, none of which is empty or a sequence. -/
def ofParts : List Pattern → Pattern
  | [] => empty
  | [part] => part
  | part :: parts => sequence part (ofParts parts)

/-- One pattern after the other. -/
def inSequence (patterns : List Pattern) : Pattern := ofParts (patterns.flatMap parts)

/-! ## Choices -/

/-- The branches of a pattern, the preferred one first. -/
def branches : Pattern → List Pattern
  | choice first rest => first.branches ++ rest.branches
  | pattern => [pattern]

/-- A choice between branches, none of which is a choice. -/
def ofBranches : List Pattern → Pattern
  | [] => one .empty
  | [branch] => branch
  | branch :: branches => choice branch (ofBranches branches)

/-- The characters of a pattern that takes one. -/
def set? : Pattern → Option CharSet
  | one set => some set
  | _ => none

/-- A choice between patterns, as one set if it is between characters. -/
def inChoice (patterns : List Pattern) : Pattern :=
  let branches := patterns.flatMap branches
  match branches.mapM set? with
  | some sets => one (sets.foldr .union .empty)
  | none => ofBranches branches

/-- What two lists begin with. -/
def commonStart : List Pattern → List Pattern → List Pattern
  | part :: parts, other :: others => if part = other then part :: commonStart parts others else []
  | _, _ => []

/-- What all branches begin with, if each of them is a sequence. -/
def sharedStart (branches : List (List Pattern)) : List Pattern :=
  match branches with
  | [] => []
  | branch :: others =>
    if branches.all (1 < ·.length) then others.foldl commonStart branch else []

/-- A choice between patterns. -/
def anyOf (patterns : List Pattern) : Pattern :=
  let branches := (patterns.flatMap branches).map parts
  let shared := sharedStart branches
  if shared.isEmpty then inChoice patterns
  else inSequence (shared ++ [inChoice (branches.map fun parts => ofParts (parts.drop shared.length))])

/-! ## Repetitions -/

/-- Whether a pattern is sure to take nothing. -/
def isIdle : Pattern → Bool
  | empty | place _ => true
  | one _ | star .. => false
  | sequence first rest | choice first rest => first.isIdle && rest.isIdle
  | optional inner _ | plus inner _ | group _ inner => inner.isIdle

/-- Whether a pattern is sure to take something. -/
def isBusy : Pattern → Bool
  | one _ => true
  | empty | place _ | optional .. | star .. => false
  | sequence first rest => first.isBusy || rest.isBusy
  | choice first rest => first.isBusy && rest.isBusy
  | plus inner _ | group _ inner => inner.isBusy

/-- Any number of times; of what takes nothing once is enough. -/
def anyTimes (inner : Pattern) (eager : Bool) : Pattern :=
  if inner.isIdle then optional inner eager else star inner eager

/-- At least once. -/
def someTimes (inner : Pattern) (eager : Bool) : Pattern :=
  if inner.isIdle then inner else plus inner eager

end Pattern

end ScreenFlow.Text
