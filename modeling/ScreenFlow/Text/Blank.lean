/-!
# Blanks

The characters of the Unicode property White_Space, and texts without them at either end. Code points
that only look blank, such as the zero width space and the byte order mark, are not among them.
-/

namespace ScreenFlow.Text

/-- The property White_Space. -/
def isBlank (c : Char) : Bool :=
  let n := c.toNat
  (0x9 ≤ n && n ≤ 0xD) || n == 0x20 || n == 0x85 || n == 0xA0 || n == 0x1680 ||
    (0x2000 ≤ n && n ≤ 0x200A) || n == 0x2028 || n == 0x2029 || n == 0x202F || n == 0x205F ||
    n == 0x3000

/-- The characters without those blank at either end. -/
def trimChars (cs : List Char) : List Char :=
  ((cs.dropWhile isBlank).reverse.dropWhile isBlank).reverse

/-- The text without blanks at either end. -/
def trim (text : String) : String := String.ofList (trimChars text.toList)

/-- Whether a text has nothing but blanks. -/
def allBlank (text : String) : Bool := text.toList.all isBlank

end ScreenFlow.Text
