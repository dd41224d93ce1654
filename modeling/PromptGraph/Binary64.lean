/-!
# Binary64 Numbers

The finite double-precision numbers, and rounding of exact ratios to them.

A number is a sign and a *code*: the exponent and fraction fields read as one
natural number. Codes are ordered as magnitudes are, and the successor of a code
is the next larger magnitude, also across a change of exponent. A code `c` with
exponent field `e` and fraction field `f` has the magnitude `m * 2 ^ q` where
`m = f` and `q = -1074` if `e = 0`, and `m = 2 ^ 52 + f` and `q = e - 1075`
otherwise. In both cases `c = (q + 1074) * 2 ^ 52 + m` as long as `m` is written
without its hidden bit below the smallest normal number, so a rounded
significand that carries into the next exponent needs no correction.

All arithmetic is on natural numbers. An operation that would leave the finite
range answers `none`.

## Main definitions

* `Binary64`: A finite double-precision number.
* `Binary64.significand`, `Binary64.exponent`: The decoded magnitude.
* `Binary64.roundRatio`: The nearest number to a ratio, ties to even.
* `Binary64.mul`, `Binary64.div`: Rounded products and quotients.
-/

namespace PromptGraph

/-- A finite double-precision number: a sign and the code of a magnitude. -/
structure Binary64 where
  /-- Whether the sign bit is set; zero has a sign too. -/
  negative : Bool
  /-- The exponent and fraction fields as one number. -/
  code : Nat
  /-- The exponent field is not that of an infinity. -/
  finite : code < 0x7ff0000000000000
  deriving DecidableEq

namespace Binary64

/-- Zero with a sign. -/
def zero (negative : Bool) : Binary64 := ⟨negative, 0, by decide⟩

instance : Inhabited Binary64 := ⟨zero false⟩

def withSign (x : Binary64) (negative : Bool) : Binary64 :=
  ⟨negative, x.code, x.finite⟩

def isZero (x : Binary64) : Bool := x.code == 0

def exponentField (x : Binary64) : Nat := x.code >>> 52

/-- The integer `m` of the magnitude `m * 2 ^ q`. -/
def significand (x : Binary64) : Nat :=
  let fraction := x.code % 0x10000000000000
  if x.exponentField = 0 then fraction else 0x10000000000000 + fraction

/-- The exponent `q` of the magnitude `m * 2 ^ q`, counted from `-1074`. -/
def scale (x : Binary64) : Nat := x.exponentField - 1

/-- The exponent `q` of the magnitude `m * 2 ^ q`. -/
def exponent (x : Binary64) : Int := (x.scale : Int) - 1074

/-- The magnitude as a numerator and a denominator. -/
def ratio (x : Binary64) : Nat × Nat :=
  (x.significand <<< x.scale, 1 <<< 1074)

/-- The natural number nearest to `num / den`, a half going to the even neighbour. -/
def roundHalfEven (num den : Nat) : Nat :=
  let q := num / den
  let r := num % den
  if 2 * r < den then q
  else if den < 2 * r then q + 1
  else if q % 2 = 0 then q else q + 1

/-- The exponent, counted from `-1074`, at which the ratio `num / den` has a
    significand of 53 bits, or `0` below the normal range. -/
def scaleOf (num den : Nat) : Nat :=
  -- the ratio lies strictly between `2 ^ (b - 1)` and `2 ^ (b + 1)`
  let b : Int := (num.log2 : Int) - den.log2
  let guess := (b - 53 + 1074).toNat
  if num <<< 1074 < den <<< (53 + guess) then guess else guess + 1

/-- The code of the magnitude nearest to `num / den`, ties to even. It is past
    the finite range if the ratio is too large. -/
def codeOfRatio (num den : Nat) : Nat :=
  let k := scaleOf num den
  k <<< 52 + roundHalfEven (num <<< 1074) (den <<< k)

/-- The number with the given sign nearest to `num / den`, ties to even. -/
def roundRatio (negative : Bool) (num den : Nat) : Option Binary64 :=
  if num = 0 then some (zero negative)
  else
    let code := codeOfRatio num den
    if h : code < 0x7ff0000000000000 then some ⟨negative, code, h⟩ else none

def mul (x y : Binary64) : Option Binary64 :=
  roundRatio (x.negative != y.negative) (x.ratio.1 * y.ratio.1) (x.ratio.2 * y.ratio.2)

/-- The rounded quotient; `none` also for a zero divisor. -/
def div (x y : Binary64) : Option Binary64 :=
  if y.isZero then none
  else roundRatio (x.negative != y.negative) (x.ratio.1 * y.ratio.2) (x.ratio.2 * y.ratio.1)

def ofNat? (n : Nat) : Option Binary64 := roundRatio false n 1

def ofInt? (i : Int) : Option Binary64 := roundRatio (i < 0) i.natAbs 1

/-- The number nearest to `digits * 10 ^ exponent`. Exponents far outside the
    range are decided from the number of digits alone. -/
def ofDecimal? (negative : Bool) (digits : Nat) (exponent : Int) : Option Binary64 :=
  if digits = 0 then some (zero negative)
  else
    let places : Int := (Nat.toDigits 10 digits).length + exponent
    if 400 < places then none
    else if places < -400 then some (zero negative)
    else if 0 ≤ exponent then roundRatio negative (digits * Nat.pow 10 exponent.toNat) 1
    else roundRatio negative digits (Nat.pow 10 (-exponent).toNat)

end Binary64

end PromptGraph
