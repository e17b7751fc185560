import ScreenFlow.Json

/-!
# JSON text

`Json.compact` writes a value without any blanks, `Json.pretty` one item or member a line, two spaces
a level. Only quotes, backslashes and control characters are escaped.
-/

namespace ScreenFlow

/-! ## Text literals -/

/-- The lower-case hexadecimal digits of `value`, `width` of them at least. -/
def hexDigits (width value : Nat) : String :=
  let digits := Nat.toDigits 16 value
  String.ofList (List.replicate (width - digits.length) '0' ++ digits)

/-- A character as it stands between quotes. -/
def escapeChar (c : Char) : String :=
  if c = '"' then "\\\""
  else if c = '\\' then "\\\\"
  else if c.toNat < 0x20 then
    if c = '\x08' then "\\b"
    else if c = '\t' then "\\t"
    else if c = '\n' then "\\n"
    else if c = '\x0c' then "\\f"
    else if c = '\r' then "\\r"
    else "\\u" ++ hexDigits 4 c.toNat
  else String.singleton c

/-- A text between quotes. -/
def quote (text : String) : String :=
  "\"" ++ String.join (text.toList.map escapeChar) ++ "\""

/-- A number's text. -/
def Number.text : Number → String
  | .int value => toString value
  | .float value => value.text

namespace Json

/-! ## Compact -/

mutual

/-- The value without any blanks. -/
def compact : Json → String
  | null => "null"
  | bool true => "true"
  | bool false => "false"
  | num value => value.text
  | str text => quote text
  | arr items => "[" ++ compactItems items ++ "]"
  | obj members => "\x7b" ++ compactMembers members ++ "\x7d"

def compactItems : List Json → String
  | [] => ""
  | [item] => compact item
  | item :: items => compact item ++ "," ++ compactItems items

def compactMembers : List (String × Json) → String
  | [] => ""
  | [(key, value)] => quote key ++ ":" ++ compact value
  | (key, value) :: members => quote key ++ ":" ++ compact value ++ "," ++ compactMembers members

end

/-! ## Pretty -/

/-- A new line at a depth of nesting. -/
def newline (depth : Nat) : String := "\n" ++ String.ofList (List.replicate (2 * depth) ' ')

mutual

/-- The value with one item or member a line, at a depth of nesting. -/
def prettyAt (depth : Nat) : Json → String
  | null => "null"
  | bool true => "true"
  | bool false => "false"
  | num value => value.text
  | str text => quote text
  | arr [] => "[]"
  | arr items => "[" ++ prettyItems (depth + 1) items ++ newline depth ++ "]"
  | obj [] => "\x7b\x7d"
  | obj members => "\x7b" ++ prettyMembers (depth + 1) members ++ newline depth ++ "\x7d"

def prettyItems (depth : Nat) : List Json → String
  | [] => ""
  | [item] => newline depth ++ prettyAt depth item
  | item :: items => newline depth ++ prettyAt depth item ++ "," ++ prettyItems depth items

def prettyMembers (depth : Nat) : List (String × Json) → String
  | [] => ""
  | [(key, value)] => newline depth ++ quote key ++ ": " ++ prettyAt depth value
  | (key, value) :: members =>
    newline depth ++ quote key ++ ": " ++ prettyAt depth value ++ "," ++ prettyMembers depth members

end

/-- The value with one item or member a line. -/
def pretty (value : Json) : String := value.prettyAt 0

end Json

end ScreenFlow
