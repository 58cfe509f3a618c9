/-!
# Blank space in text

The characters with the Unicode property `White_Space`, and trimming by them. Trimming by any other
class of characters goes through the same two functions.
-/

namespace Tollgate.Text

/-- The characters of the Unicode property `White_Space`. -/
def isBlank (c : Char) : Bool :=
  let n := c.toNat
  (9 ≤ n && n ≤ 13) || n = 0x20 || n = 0x85 || n = 0xA0 || n = 0x1680
    || (0x2000 ≤ n && n ≤ 0x200A) || n = 0x2028 || n = 0x2029 || n = 0x202F || n = 0x205F
    || n = 0x3000

/-- Drops the longest run of characters of a class at the end. -/
def dropEndWhile (p : α → Bool) (text : List α) : List α :=
  (text.reverse.dropWhile p).reverse

/-- Drops the blank characters at both ends. -/
def trim (text : List Char) : List Char := dropEndWhile isBlank (text.dropWhile isBlank)

/-- A text without the blank characters at its ends. -/
def trimmed (text : String) : String := String.ofList (trim text.toList)

end Tollgate.Text
