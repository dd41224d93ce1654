import PromptGraph.Binary64

/-!
# Shortest Decimals

The fewest decimal digits that identify a finite double-precision number, and
among the decimals with that many digits the one nearest to it.

A magnitude `m * 2 ^ q` owns the interval of ratios that round to it, the ends
included exactly when its code is even, because a half goes to the even
neighbour. For each number of digits the decimals form a grid, and if a grid
point lies in the interval then so does one of the two grid points next to the
magnitude. So the search tries these two on ever finer grids.

## Main definitions

* `Decimal`: A digit string with the exponent of its leading digit.
* `Binary64.rounds`: Whether a ratio rounds to a given magnitude.
* `Binary64.shortest`: The shortest decimal that rounds to a magnitude.
-/

namespace PromptGraph

/-- A positive decimal: `d₁.d₂d₃… * 10 ^ exponent`. -/
structure Decimal where
  /-- The digits, without a trailing zero. -/
  digits : List Char
  /-- The exponent of the leading digit. -/
  exponent : Int
  deriving DecidableEq

namespace Binary64

/-- Whether the ratio `num / den` rounds to the magnitude of `x`. -/
def rounds (x : Binary64) (num den : Nat) : Bool :=
  -- distances are compared in quarters of the unit in the last place below `x`
  let unit := 1 <<< x.scale
  let value := 4 * x.significand * unit
  let above := value + 2 * unit
  -- the gap below the first number of an exponent is half as wide
  let below :=
    value - (if x.code % 0x10000000000000 = 0 ∧ 1 < x.exponentField then unit else 2 * unit)
  let target := (4 * num) <<< 1074
  if x.code % 2 = 0 then below * den ≤ target ∧ target ≤ above * den
  else below * den < target ∧ target < above * den

/-- The exponent of the leading decimal digit of the ratio `num / den`. -/
def leadingExponent (num den : Nat) : Int :=
  if den ≤ num then ((Nat.toDigits 10 (num / den)).length : Int) - 1
  else -((Nat.toDigits 10 ((den - 1) / num)).length : Int)

/-- The first grid, from `count` digits on, with a point that rounds to `x`; of
    two such points the nearer, of two equally near the even one. The point is
    given with the exponent of its last digit. -/
def shortestFrom (x : Binary64) (leading : Int) (count : Nat) : Nat → Nat × Int
  | 0 => (x.significand, 0)
  | fuel + 1 =>
    let last := leading - count + 1
    -- `point * up / down` is the decimal of a grid point
    let up := if 0 ≤ last then Nat.pow 10 last.toNat else 1
    let down := if 0 ≤ last then 1 else Nat.pow 10 (-last).toNat
    let num := x.ratio.1 * down
    let den := x.ratio.2 * up
    let low := num / den
    let twice := 2 * (num % den)
    match x.rounds (low * up) down, x.rounds ((low + 1) * up) down with
    | true, false => (low, last)
    | false, true => (low + 1, last)
    | true, true =>
      if twice < den ∨ (twice = den ∧ low % 2 = 0) then (low, last) else (low + 1, last)
    | false, false => shortestFrom x leading (count + 1) fuel

/-- The shortest decimal that rounds to the magnitude of `x`; seventeen digits
    always suffice. -/
def shortest (x : Binary64) : Decimal :=
  if x.isZero then ⟨['0'], 0⟩
  else
    let (point, last) := shortestFrom x (leadingExponent x.ratio.1 x.ratio.2) 1 18
    let digits := Nat.toDigits 10 point
    ⟨(digits.reverse.dropWhile (· == '0')).reverse, last + (digits.length : Int) - 1⟩

end Binary64

end PromptGraph
