import PromptGraph.Idna.Bidi
import PromptGraph.Idna.Joining
import PromptGraph.Idna.Mapping
import PromptGraph.Idna.Punycode

/-!
# International Domain Names

From a domain name in any script to its form in ASCII.

The characters of the name are mapped and composed, and the name is split at its
points. A label that is already written in ASCII with the prefix for such labels
is decoded, and what it writes has to be a label that mapping would not change.
Each label is checked, and those with other than ASCII characters are written
with the prefix.

Labels may be empty and of any length that can be encoded, and hyphens may stand
anywhere.

## Main definitions

* `forbidden`: Characters that no domain name may have.
* `label?`: A checked label in its own script.
* `toAscii?`: The form of a name in ASCII; `none` if it is not valid.
-/

namespace PromptGraph.Idna

/-- The ASCII characters that no domain name may have: controls, the blank, and
    those that have a meaning in addresses. -/
def forbidden (c : Char) : Bool :=
  c.toNat ≤ 32 || c.toNat = 127 || "%#/:<>?@[\\]^|".toList.contains c

def isAscii (c : Char) : Bool := c.toNat < 128

/-- The prefix of labels that are written in ASCII. -/
def asciiPrefix : List Char := ['x', 'n', '-', '-']

/-- The most characters that a label may have to be written in ASCII. -/
def maxEncoded : Nat := 1000

/-- The most characters that are decoded. -/
def maxDecoded : Nat := 2000

/-- The label that a text in ASCII writes: not all of it ASCII, of characters that
    mapping keeps, and composed. -/
def decodeLabel? (text : List Char) : Option (List Char) := do
  if maxDecoded < text.length then none
  else
    let label ← Punycode.decode? text
    if label.all isAscii || !label.all isKept || canonicalComposition label != label then none
    else some label

/-- Whether the characters of a label stand where they may. -/
def validLabel (label : List Char) : Bool :=
  !label.any forbidden && !label.head?.any isMark && joinersInPlace label

/-- The label in its own script, if it is valid on its own. -/
def label? (label : List Char) : Option (List Char) := do
  let label ←
    if asciiPrefix.isPrefixOf label then decodeLabel? (label.drop 4) else some label
  if validLabel label then some label else none

/-- A label in ASCII, with the prefix if it needs one. -/
def encodeLabel? (label : List Char) : Option (List Char) :=
  if label.all isAscii then some label
  else if maxEncoded < label.length then none
  else some (asciiPrefix ++ Punycode.encode label)

/-- Texts with points between them. -/
def joinLabels : List (List Char) → List Char
  | [] => []
  | [label] => label
  | label :: rest => label ++ '.' :: joinLabels rest

/-- The form of a name in ASCII. -/
def toAscii? (name : List Char) : Option (List Char) := do
  let mapped ← mapDomain? name
  let labels ← (splitAtChar '.' (canonicalComposition mapped)).mapM label?
  if labels.any isRightToLeft && !labels.all followsBidiRule then none
  else
    let encoded ← labels.mapM encodeLabel?
    some (joinLabels encoded)

end PromptGraph.Idna
