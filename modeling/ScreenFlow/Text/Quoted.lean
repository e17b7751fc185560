import ScreenFlow.Json.Printer
import ScreenFlow.Text.Unprintable

/-!
# Texts quoted for a reader

How a message shows a text it complains of: between quotes, with what cannot be seen as an escape.
-/

namespace ScreenFlow.Text

/-- A character as a message shows it. -/
def showChar (c : Char) : String :=
  if c = '\x00' then "\\0"
  else if c = '\t' then "\\t"
  else if c = '\r' then "\\r"
  else if c = '\n' then "\\n"
  else if c = '"' then "\\\""
  else if c = '\\' then "\\\\"
  else if isUnprintable c then "\\u\x7b" ++ hexDigits 1 c.toNat ++ "\x7d"
  else String.singleton c

/-- A text as a message shows it. -/
def shown (text : String) : String := "\"" ++ String.join (text.toList.map showChar) ++ "\""

end ScreenFlow.Text
