/-!
# Blanks

The characters that separate words in any script, and texts without blanks at their ends.

## Main definitions

* `Text.isBlank`, `Text.trim`.
-/

namespace MeshRoutes.Text

/-- Whether a character has the property of being white space. The zero width space has not. -/
def isBlank (c : Char) : Bool :=
  let n := c.toNat
  (0x09 ≤ n && n ≤ 0x0D) || n == 0x20 || n == 0x85 || n == 0xA0 || n == 0x1680 ||
    (0x2000 ≤ n && n ≤ 0x200A) || n == 0x2028 || n == 0x2029 || n == 0x202F || n == 0x205F ||
    n == 0x3000

/-- The characters between the blanks at both ends. -/
def trimChars (cs : List Char) : List Char :=
  ((cs.dropWhile isBlank).reverse.dropWhile isBlank).reverse

/-- The text between the blanks at both ends. -/
def trim (s : String) : String := String.ofList (trimChars s.toList)

end MeshRoutes.Text
