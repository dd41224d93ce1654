import PromptGraph.Json.Document

/-!
# JSON Numerals

Reading a number at the head of a JSON text.

An integer literal is taken exactly if it fits 64 bits. Any other literal is a
double, computed in two steps: the digits are gathered into a significand of at
most 64 bits, as many as fit, with a decimal exponent for their place; then the
significand and the power of ten are each rounded to a double and multiplied or
divided with one more rounding. For at most fifteen digits and exponents up to
22 both steps are exact and the result is the nearest double; in general it may
be a neighbour of that.

A reader that only skips a number checks its form and not its size.

## Main definitions

* `Token`: A token read from the head of a text, and where the text goes on.
* `Numeral.compose`: A significand times a power of ten.
* `Numeral.scan`: A number at the head of a text.
-/

namespace PromptGraph

/-- The bytes of a text. -/
abbrev Bytes := List UInt8

/-- A token at the head of a text: what it reads as, and where the text goes on
    after it, or the fault that even skipping it meets. -/
structure Token (α : Type) where
  /-- The value, for a reader that needs it. -/
  read : Except Fault α
  /-- The text after the token. -/
  rest : Except Fault Bytes

namespace Token

/-- A token that can be neither read nor skipped. -/
def fail {α : Type} (read skip : Fault) : Token α := ⟨.error read, .error skip⟩

end Token

namespace Numeral

def isDigit (b : UInt8) : Bool := 48 ≤ b && b ≤ 57

def digit (b : UInt8) : Nat := b.toNat - 48

/-- Append digits to a significand for as long as it stays within 64 bits; also
    the number of digits left over. -/
def gather (significand : Nat) : Bytes → Nat × Nat
  | [] => (significand, 0)
  | b :: rest =>
    let next := significand * 10 + digit b
    if next < 0x10000000000000000 then gather next rest else (significand, rest.length + 1)

/-- The double nearest to a power of ten; powers past the range are not asked for. -/
def powerOfTen (n : Nat) : Binary64 :=
  (Binary64.roundRatio false (Nat.pow 10 n) 1).getD default

/-- `x * 10 ^ exponent` with one rounding a step: a negative exponent too large
    for one division is worked off in steps of `308`. -/
def scale (x : Binary64) (exponent : Int) : Nat → Option Binary64
  | 0 => some (.zero x.negative)
  | steps + 1 =>
    if exponent.natAbs ≤ 308 then
      if 0 ≤ exponent then x.mul (powerOfTen exponent.natAbs)
      else x.div (powerOfTen exponent.natAbs)
    else if x.isZero then some x
    else if 0 ≤ exponent then none
    else (x.div (powerOfTen 308)).bind fun y => scale y (exponent + 308) steps

/-- The double of a significand of 64 bits and a decimal exponent. Two divisions
    by `10 ^ 308` leave zero, so three steps are enough. -/
def compose (negative : Bool) (significand : Nat) (exponent : Int) : Except Fault Number :=
  match (Binary64.ofNat? significand).bind (scale · exponent 3) with
  | some x => .ok (.double (x.withSign negative))
  | none => .error .malformed

/-- The number of an integer literal: exact if it fits, else a double, as is the
    negative zero. -/
def ofInteger (negative : Bool) (digits : Bytes) : Except Fault Number :=
  let (significand, left) := gather 0 digits
  let value : Int := if negative then -significand else significand
  if left ≠ 0 then compose negative significand left
  else if negative && significand == 0 then .ok (.double (.zero true))
  else
    match Number.ofInt? value with
    | some n => .ok n
    | none => compose negative significand 0

/-- The largest exponent that is computed with; a larger one is out of range or
    leaves zero. -/
def maxExponent : Nat := 0x7fffffff

/-- The number of digits before and after the point and an exponent. -/
def ofParts (negative : Bool) (whole fraction : Bytes) (exponent : Option (Bool × Bytes)) :
    Except Fault Number :=
  let (high, left) := gather 0 whole
  let (significand, dropped) := gather high fraction
  let place : Int := left - (fraction.length - dropped : Nat)
  match exponent with
  | none => compose negative significand place
  | some (down, digits) =>
    let e := digits.foldl (fun n b => n * 10 + digit b) 0
    if e ≤ maxExponent then
      compose negative significand (if down then place - e else place + e)
    else if significand ≠ 0 && !down then .error .malformed
    else .ok (.double (.zero negative))

/-- The fault of a missing digit: the text may have ended. -/
def missingDigit (rest : Bytes) : Fault :=
  if rest.isEmpty then .ended else .malformed

/-- The exponent part after its mark, with the number composed by `finish`. -/
def scanExponent (finish : Bool × Bytes → Except Fault Number) (text : Bytes) : Token Number :=
  let (down, text) := match text with
    | 43 :: rest => (false, rest)
    | 45 :: rest => (true, rest)
    | _ => (false, text)
  let digits := text.takeWhile isDigit
  if digits.isEmpty then .fail (missingDigit text) .malformed
  else ⟨finish (down, digits), .ok (text.dropWhile isDigit)⟩

/-- The part after the point of a number with the digits `whole` before it. -/
def scanFraction (negative : Bool) (whole : Bytes) (text : Bytes) : Token Number :=
  let fraction := text.takeWhile isDigit
  let rest := text.dropWhile isDigit
  if fraction.isEmpty then .fail (missingDigit text) .malformed
  else
    match rest with
    | 101 :: rest | 69 :: rest =>
      scanExponent (fun e => ofParts negative whole fraction (some e)) rest
    | _ => ⟨ofParts negative whole fraction none, .ok rest⟩

/-- A number after its sign. -/
def scanMagnitude (negative : Bool) (text : Bytes) : Token Number :=
  let whole := text.takeWhile isDigit
  let rest := text.dropWhile isDigit
  if whole.isEmpty then .fail (missingDigit text) .malformed
  else if whole.head? == some 48 && 1 < whole.length then .fail .malformed .malformed
  else
    match rest with
    | 46 :: rest => scanFraction negative whole rest
    | 101 :: rest | 69 :: rest =>
      scanExponent (fun e => ofParts negative whole [] (some e)) rest
    | _ => ⟨ofInteger negative whole, .ok rest⟩

/-- A number at the head of a text. -/
def scan : Bytes → Token Number
  | 45 :: rest => scanMagnitude true rest
  | text => scanMagnitude false text

end Numeral

end PromptGraph
