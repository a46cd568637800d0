import StructuralLint.Text.CharSet

/-!
# Blank characters

The white space of Unicode together with the four information separators of ASCII, and the removal
of blanks from the ends of a text.
-/

namespace StructuralLint.Text

/-- A character that stands for empty space. -/
def isBlank (c : Char) : Bool :=
  let n := c.toNat
  (0x09 ≤ n && n ≤ 0x0D) || (0x1C ≤ n && n ≤ 0x20) || n == 0x85 || n == 0xA0 || n == 0x1680 ||
    (0x2000 ≤ n && n ≤ 0x200A) || n == 0x2028 || n == 0x2029 || n == 0x202F || n == 0x205F ||
    n == 0x3000

/-- A text without the characters at either end that `drops` marks. -/
def trimBy (drops : Char → Bool) (text : List Char) : List Char :=
  ((text.dropWhile drops).reverse.dropWhile drops).reverse

/-- A text without the blanks at either end. -/
def trim (text : List Char) : List Char := trimBy isBlank text

end StructuralLint.Text
