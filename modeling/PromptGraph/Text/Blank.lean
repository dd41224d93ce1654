/-!
# Blanks

The characters with the Unicode property `White_Space`, and texts without them
at their ends. These, and no others, surround a number in a string or make an
address blank.

## Main definitions

* `isBlank`: Whether a character is white space.
* `trimBlanks`: A text without blanks at its ends.
* `isBlankText`: Whether a text holds nothing but blanks.
-/

namespace PromptGraph

/-- Whether a character has the property `White_Space`. -/
def isBlank (c : Char) : Bool :=
  let n := c.toNat
  (9 ≤ n && n ≤ 13) || n == 32 || n == 0x85 || n == 0xA0 || n == 0x1680
    || (0x2000 ≤ n && n ≤ 0x200A) || n == 0x2028 || n == 0x2029 || n == 0x202F
    || n == 0x205F || n == 0x3000

/-- A text without blanks at its ends. -/
def trimBlanks (text : List Char) : List Char :=
  ((text.dropWhile isBlank).reverse.dropWhile isBlank).reverse

/-- Whether a text holds nothing but blanks. -/
def isBlankText (text : String) : Bool := text.toList.all isBlank

end PromptGraph
