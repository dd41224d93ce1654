import PromptGraph.Json.Printer
import PromptGraph.Schema.Kind
import PromptGraph.Text.Blank
import PromptGraph.Text.Numeral

/-!
# Coercion

Fitting stored values to the kinds of inputs.

Numbers and text change into each other: a numeral in a string is a number where
a number is expected, and a number is its own text where text is expected. The
words for the truth values are booleans. Nothing else changes its type, and any
value fits where no kind is expected.

## Main definitions

* `numberOfText?`: The number that a string writes.
* `coerce`: A value brought to a kind.
* `fits`: Whether a value can be brought to a kind.
-/

namespace PromptGraph

/-- The number that a string writes between blanks: an integer of 64 bits with a
    sign, else a double. -/
def numberOfText? (text : String) : Option Number :=
  let trimmed := trimBlanks text.toList
  let integer := (integerOfText? trimmed).bind fun i =>
    if h : -0x8000000000000000 ≤ i ∧ i < 0x8000000000000000 then
      some (Number.int i ⟨h.1, by omega⟩)
    else
      none
  integer.or ((binary64OfText? trimmed).map .double)

/-- The boolean that a string writes. -/
def booleanOfText? (text : String) : Option Bool :=
  if text = "true" then some true else if text = "false" then some false else none

/-- A value brought to a kind. -/
def coerceTo (kind : Kind) (value : Json) : Option Json :=
  match kind, value with
  | .int, .num n | .float, .num n => some (.num n)
  | .int, .str s | .float, .str s => (numberOfText? s).map .num
  | .string, .str s | .combo, .str s | .file, .str s | .enum, .str s => some (.str s)
  | .string, .num n | .combo, .num n | .file, .num n | .enum, .num n => some (.str n.text)
  | .boolean, .bool b => some (.bool b)
  | .boolean, .str s => (booleanOfText? s).map .bool
  | _, _ => none

/-- A value brought to a kind; no kind takes it as it is. -/
def coerce (expected : Option Kind) (value : Json) : Option Json :=
  match expected with
  | none => some value
  | some kind => coerceTo kind value

/-- Whether a value can be brought to a kind. -/
def fits (expected : Option Kind) (value : Json) : Bool := (coerce expected value).isSome

end PromptGraph
