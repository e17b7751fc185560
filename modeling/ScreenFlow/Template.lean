import ScreenFlow.Bindings
import ScreenFlow.Text.Blank

/-!
# Templates

A token is `{{`, a key without `}`, and `}}`. Rendering replaces the tokens from left to right by the
values bound to their keys without blanks at either end; what it puts in is not looked at again.
-/

namespace ScreenFlow.Template

/-- The token at the front of a text: what stands between its braces, and what follows it. -/
def tokenAt : List Char → Option (List Char × List Char)
  | '{' :: '{' :: cs =>
    let content := cs.takeWhile (· ≠ '}')
    match cs.dropWhile (· ≠ '}') with
    | '}' :: '}' :: rest => if content.isEmpty then none else some (content, rest)
    | _ => none
  | _ => none

/-- The key of a token. -/
def keyOf (content : List Char) : String := String.ofList (Text.trimChars content)

theorem length_of_tokenAt {cs content rest : List Char} (h : tokenAt cs = some (content, rest)) :
    rest.length < cs.length := by
  unfold tokenAt at h
  split at h
  next tail =>
    simp only at h
    split at h
    next after heq =>
      split at h
      · simp at h
      · simp only [Option.some.injEq, Prod.mk.injEq] at h
        have := (List.dropWhile_suffix (l := tail) (· ≠ '}')).length_le
        rw [heq, h.2] at this
        simp only [List.length_cons] at this ⊢
        omega
    · simp at h
  · simp at h

/-- Replace every token, from left to right. -/
def renderChars (values : Bindings String) (cs : List Char) : List Char :=
  match cs with
  | [] => []
  | c :: cs =>
    match _h : tokenAt (c :: cs) with
    | some (content, rest) =>
      ((values.get? (keyOf content)).getD "").toList ++ renderChars values rest
    | none => c :: renderChars values cs
termination_by cs.length
decreasing_by
  · exact length_of_tokenAt _h
  · simp

/-- A template with its tokens replaced. -/
def render (values : Bindings String) (template : String) : String :=
  String.ofList (renderChars values template.toList)

end ScreenFlow.Template
