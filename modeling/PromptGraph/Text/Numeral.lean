import PromptGraph.Binary64

/-!
# Numbers in Text

Decimal numerals as they stand in text that was not written as JSON: with an
optional sign of either kind, and a fraction that may lack the digits on one side
of its point.

## Main definitions

* `integerOfText?`: An integer numeral.
* `binary64OfText?`: A decimal numeral, rounded correctly to a double.
-/

namespace PromptGraph

/-- The number that decimal digits write; `none` if another character occurs. -/
def digitsOf (n : Nat) : List Char → Option Nat
  | [] => some n
  | c :: rest => if c.isDigit then digitsOf (n * 10 + (c.toNat - 48)) rest else none

/-- An optional sign, and what follows it. -/
def splitSign : List Char → Bool × List Char
  | '-' :: rest => (true, rest)
  | '+' :: rest => (false, rest)
  | text => (false, text)

/-- The integer that a text writes: digits, at least one, after an optional sign. -/
def integerOfText? (text : List Char) : Option Int :=
  let (negative, digits) := splitSign text
  if digits.isEmpty then none
  else (digitsOf 0 digits).map fun n => if negative then -(n : Int) else n

/-- The exponent after a significand: none at all, or the mark and an integer. -/
def exponentOfText? : List Char → Option Int
  | [] => some 0
  | c :: rest => if c = 'e' ∨ c = 'E' then integerOfText? rest else none

/-- The double nearest to the decimal numeral that a text writes, if it is in
    range. There is a digit on at least one side of the point. -/
def binary64OfText? (text : List Char) : Option Binary64 :=
  let (negative, text) := splitSign text
  let whole := text.takeWhile Char.isDigit
  let text := text.dropWhile Char.isDigit
  let (fraction, text) := match text with
    | '.' :: rest => (rest.takeWhile Char.isDigit, rest.dropWhile Char.isDigit)
    | _ => ([], text)
  if whole.isEmpty && fraction.isEmpty then none
  else do
    let exponent ← exponentOfText? text
    let digits ← digitsOf 0 (whole ++ fraction)
    Binary64.ofDecimal? negative digits (exponent - fraction.length)

end PromptGraph
