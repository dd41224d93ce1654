import Mathlib.Algebra.Group.Nat.Defs
import PromptGraph.Binary64

/-!
# Rounding Large Integers

How far off a double is that stands for an integer.

An integer of 64 bits whose highest bit is set has 11 bits more than the significand of a double.
It is divided by `2 ^ 11` and rounded, so it is off by half of that at most. The quotient may be
rounded up to `2 ^ 53`, which is one bit too long. Then the code carries into the next exponent,
and the magnitude is right all the same.

## Main definitions

* `Binary64.IsNear`: A double is a natural number up to an error.

## Theorems

* `Binary64.roundHalfEven_near`: Rounding is off by half a unit at most.
* `Binary64.codeOfRatio_of_large`, `Binary64.ratio_of_code`: The code of a large integer and its
  magnitude.
* `Binary64.ofNat?_near`: The double of a large integer.
-/

namespace PromptGraph

namespace Binary64

/-- A double that is not negative is a natural number, up to an error. -/
def IsNear (x : Binary64) (n error : Nat) : Prop :=
  x.negative = false ∧ ∃ m, x.ratio.1 = m * x.ratio.2 ∧ m ≤ n + error ∧ n ≤ m + error

theorem roundHalfEven_near (num den : Nat) (hden : 0 < den) :
    2 * (roundHalfEven num den * den) ≤ 2 * num + den ∧
      2 * num ≤ 2 * (roundHalfEven num den * den) + den := by
  have hsplit := Nat.div_add_mod' num den
  have hrest := Nat.mod_lt num hden
  have hsucc : (num / den + 1) * den = num / den * den + den := Nat.succ_mul ..
  unfold roundHalfEven
  simp only []
  split
  · omega
  · split
    · omega
    · split <;> omega

/-- A common factor makes no difference to a quotient. -/
theorem roundHalfEven_shift (num den bits : Nat) :
    roundHalfEven (num <<< bits) (den <<< bits) = roundHalfEven num den := by
  have hpos : 0 < 2 ^ bits := Nat.two_pow_pos bits
  unfold roundHalfEven
  simp only [Nat.shiftLeft_eq, Nat.mul_div_mul_right _ _ hpos, Nat.mul_mod_mul_right,
    ← Nat.mul_assoc, Nat.mul_lt_mul_right hpos]

section Large

variable (n : Nat) (hlow : 2 ^ 63 ≤ n) (hhigh : n < 2 ^ 64)
include hlow hhigh

theorem scaleOf_of_large : scaleOf n 1 = 1085 := by
  have hlog : n.log2 = 63 := (Nat.log2_eq_iff (by omega)).mpr ⟨hlow, hhigh⟩
  have hbits : ¬n <<< 1074 < 1 <<< (63 + 1074) := by
    rw [Nat.shiftLeft_add, Nat.shiftLeft_eq n, Nat.shiftLeft_eq _ 1074,
      Nat.mul_lt_mul_right (Nat.two_pow_pos 1074), Nat.not_lt]
    exact hlow
  unfold scaleOf
  simp only [hlog]
  exact if_neg hbits

theorem codeOfRatio_of_large : codeOfRatio n 1 = 1085 * 2 ^ 52 + roundHalfEven n 2048 := by
  unfold codeOfRatio
  rw [scaleOf_of_large n hlow hhigh, show (1085 : Nat) = 11 + 1074 by rfl]
  simp only [Nat.shiftLeft_add, roundHalfEven_shift]
  rfl

end Large

theorem shiftLeft_eleven (a bits : Nat) : a <<< (11 + bits) = a * 2048 * (1 <<< bits) := by
  rw [Nat.shiftLeft_add, Nat.shiftLeft_eq _ bits, Nat.shiftLeft_eq 1 bits, Nat.one_mul,
    Nat.shiftLeft_eq]

/-- The magnitude of a code that was made with 53 bits or carries into the next exponent. -/
theorem ratio_of_code (x : Binary64) (m : Nat) (hlow : 2 ^ 52 ≤ m) (hhigh : m ≤ 2 ^ 53)
    (hcode : x.code = 1085 * 2 ^ 52 + m) : x.ratio.1 = m * 2048 * x.ratio.2 := by
  unfold ratio significand scale exponentField
  simp only [Nat.shiftRight_eq_div_pow, hcode]
  by_cases hcarry : m = 2 ^ 53
  · rw [hcarry, show (1085 * 2 ^ 52 + 2 ^ 53) / 2 ^ 52 = 1087 by rfl, if_neg (by decide),
      show (1087 - 1 : Nat) = 1 + 1085 by rfl, Nat.shiftLeft_add]
    exact shiftLeft_eleven _ 1074
  · have hfield : (1085 * 2 ^ 52 + m) / 2 ^ 52 = 1086 := by omega
    have hsignificand : 0x10000000000000 + (1085 * 2 ^ 52 + m) % 0x10000000000000 = m := by omega
    rw [hfield, if_neg (by decide), hsignificand]
    exact shiftLeft_eleven m 1074

/-- The double of an integer of 64 bits with the highest bit set is off by `2 ^ 10` at most. -/
theorem ofNat?_near (n : Nat) (hlow : 2 ^ 63 ≤ n) (hhigh : n < 2 ^ 64) :
    ∃ x, ofNat? n = some x ∧ x.IsNear n 1024 := by
  have hnear := roundHalfEven_near n 2048 (by decide)
  have hcode := codeOfRatio_of_large n hlow hhigh
  generalize roundHalfEven n 2048 = m at hnear hcode
  have hfinite : codeOfRatio n 1 < 0x7ff0000000000000 := by omega
  refine ⟨⟨false, codeOfRatio n 1, hfinite⟩, ?_, rfl, m * 2048, ?_, by omega, by omega⟩
  · unfold ofNat? roundRatio
    rw [if_neg (by omega)]
    exact dif_pos hfinite
  · exact ratio_of_code _ m (by omega) (by omega) hcode

/-- A numeral without a fraction and an exponent is rounded as the integer it writes. -/
theorem ofDecimal?_integer (n : Nat) (hpos : 0 < n) (hhigh : n < 2 ^ 64) :
    ofDecimal? false n 0 = ofNat? n := by
  have hlength : (Nat.toDigits 10 n).length ≤ 20 :=
    (Nat.length_toDigits_le_iff (by decide) (by decide)).mpr (by omega)
  unfold ofDecimal? ofNat?
  simp only []
  rw [if_neg (by omega), if_neg (by omega), if_neg (by omega), if_pos (Int.le_refl 0)]
  exact congrArg (roundRatio false · 1) (Nat.mul_one n)

end Binary64

end PromptGraph
