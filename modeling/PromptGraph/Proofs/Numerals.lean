import Mathlib.Data.List.TakeWhile
import PromptGraph.Compile.Node
import PromptGraph.Proofs.Cursor
import PromptGraph.Proofs.Rounding

/-!
# Integers Held as Text

What becomes of an integer when its text is read where a number is expected.

The text of an integer holds digits, perhaps after a minus sign. There is no blank in it that
could be trimmed, so the reader of integers gets the integer back, whatever its size. But only an
integer of 64 bits with a sign is kept. The numbers of a document are integers of 64 bits with or
without a sign, so there are some that are not kept: those whose highest bit is set. The reader
of decimals takes these, as it takes fractions, and the number is a double from then on, which
has lost the last digits.

## Main definitions

* `Number.SurvivesText`: A number is not altered by being held as text.

## Theorems

* `digitsOf_toDigits`, `integerOfText?_integerText`: Integers are read back.
* `binary64OfText?_toDigits`: The decimal that digits write.
* `numberOfText?_integerText`: The number that the text of an integer is read as.
* `Number.survivesText_of_signed`, `Number.coerceTo_text_of_large`: The two ranges.
* `Number.survivesText_iff`: Exactly the integers with a sign survive.
-/

namespace PromptGraph

theorem digitsOf_eq (n : Nat) (digits : List Char) (h : ∀ c ∈ digits, c.isDigit = true) :
    digitsOf n digits = some (Nat.ofDigitChars 10 digits n) := by
  induction digits generalizing n with
  | nil => rfl
  | cons c rest ih =>
      rw [digitsOf, if_pos (h c (List.mem_cons_self ..)),
        ih _ fun d hd => h d (List.mem_cons_of_mem c hd), Nat.ofDigitChars_cons, Nat.mul_comm]
      rfl

theorem isDigit_of_mem_toDigits (n : Nat) (c : Char) (h : c ∈ Nat.toDigits 10 n) :
    c.isDigit = true :=
  Nat.isDigit_of_mem_toDigits (by decide) (by decide) h

theorem isEmpty_toDigits (n : Nat) : (Nat.toDigits 10 n).isEmpty = false :=
  List.isEmpty_eq_false_iff.mpr Nat.toDigits_ne_nil

theorem digitsOf_toDigits (n : Nat) : digitsOf 0 (Nat.toDigits 10 n) = some n := by
  rw [digitsOf_eq 0 _ (isDigit_of_mem_toDigits n), Nat.ofDigitChars_ten_toDigits]

theorem isBlank_of_isDigit (c : Char) (h : c.isDigit = true) : isBlank c = false := by
  have hrange : 48 ≤ c.toNat ∧ c.toNat ≤ 57 := by
    simp only [Char.isDigit, ge_iff_le, Bool.and_eq_true, decide_eq_true_eq,
      UInt32.le_iff_toNat_le] at h
    exact h
  unfold isBlank
  simp only [Bool.or_eq_false_iff, Bool.and_eq_false_iff, decide_eq_false_iff_not,
    beq_eq_false_iff_ne]
  omega

/-- A text without blanks is not trimmed. -/
theorem trimBlanks_eq (text : List Char) (h : ∀ c ∈ text, isBlank c = false) :
    trimBlanks text = text := by
  have hdrop : ∀ part : List Char, (∀ c ∈ part, isBlank c = false) →
      part.dropWhile isBlank = part := by
    intro part hpart
    rw [List.dropWhile_eq_self_iff]
    exact fun hpos => Bool.eq_false_iff.mp (hpart _ (List.getElem_mem hpos))
  unfold trimBlanks
  rw [hdrop text h, hdrop text.reverse fun c hc => h c (List.mem_reverse.mp hc),
    List.reverse_reverse]

/-- Digits alone are a text without a sign. -/
theorem splitSign_toDigits (n : Nat) :
    splitSign (Nat.toDigits 10 n) = (false, Nat.toDigits 10 n) := by
  have hdigits := isDigit_of_mem_toDigits n
  generalize Nat.toDigits 10 n = digits at hdigits
  unfold splitSign
  split
  · exact absurd (hdigits '-' (List.mem_cons_self ..)) (by decide)
  · exact absurd (hdigits '+' (List.mem_cons_self ..)) (by decide)
  · rfl

theorem toList_integerText (i : Int) :
    (integerText i).toList =
      if i < 0 then '-' :: Nat.toDigits 10 i.natAbs else Nat.toDigits 10 i.natAbs := by
  unfold integerText
  exact String.toList_ofList

theorem trimBlanks_integerText (i : Int) :
    trimBlanks (integerText i).toList = (integerText i).toList := by
  refine trimBlanks_eq _ fun c hc => ?_
  have hdigit : c ∈ Nat.toDigits 10 i.natAbs → isBlank c = false :=
    fun hmem => isBlank_of_isDigit c (isDigit_of_mem_toDigits i.natAbs c hmem)
  rw [toList_integerText] at hc
  by_cases hneg : i < 0
  · rw [if_pos hneg] at hc
    rcases List.mem_cons.mp hc with rfl | hmem
    · decide
    · exact hdigit hmem
  · rw [if_neg hneg] at hc
    exact hdigit hc

/-- The text of an integer is read as the integer. -/
theorem integerOfText?_integerText (i : Int) :
    integerOfText? (integerText i).toList = some i := by
  rw [toList_integerText]
  unfold integerOfText?
  by_cases hneg : i < 0
  · rw [if_pos hneg]
    simp only [splitSign, isEmpty_toDigits, digitsOf_toDigits, Bool.false_eq_true, if_false,
      if_true]
    exact congrArg some (Int.eq_neg_natAbs_of_nonpos (Int.le_of_lt hneg)).symm
  · rw [if_neg hneg]
    simp only [splitSign_toDigits, isEmpty_toDigits, digitsOf_toDigits, Bool.false_eq_true,
      if_false]
    exact congrArg some (Int.natAbs_of_nonneg (Int.not_lt.mp hneg))

/-- Digits alone are a decimal without a fraction and an exponent. -/
theorem binary64OfText?_toDigits (n : Nat) :
    binary64OfText? (Nat.toDigits 10 n) = Binary64.ofDecimal? false n 0 := by
  have hdigits := isDigit_of_mem_toDigits n
  unfold binary64OfText?
  simp only [splitSign_toDigits, List.takeWhile_eq_self_iff.mpr hdigits,
    List.dropWhile_eq_nil_iff.mpr hdigits, isEmpty_toDigits, Bool.false_and, Bool.false_eq_true,
    if_false, exponentOfText?, List.append_nil, digitsOf_toDigits]
  rfl

/-- The text of an integer is read as the integer if it has 64 bits with its sign, and else as
    the double that it is rounded to. -/
theorem numberOfText?_integerText (i : Int) (fits : FitsWord i) :
    numberOfText? (integerText i) =
      if i < 0x8000000000000000 then some (.int i fits)
      else (Binary64.ofNat? i.natAbs).map .double := by
  unfold numberOfText?
  simp only [trimBlanks_integerText, integerOfText?_integerText, Option.bind_some]
  by_cases hsigned : i < 0x8000000000000000
  · rw [dif_pos ⟨fits.1, hsigned⟩, if_pos hsigned]
    rfl
  · have hhigh := fits.2
    rw [dif_neg fun hrange => hsigned hrange.2, if_neg hsigned, Option.none_or, toList_integerText,
      if_neg (by omega), binary64OfText?_toDigits,
      Binary64.ofDecimal?_integer i.natAbs (by omega) (by omega)]

namespace Number

/-- A number is not altered by being held as text. Where a number is expected, its text is read
    as the number, from a buffer and from a primitive node too; and a number that was made text is
    made the same number again. -/
structure SurvivesText (n : Number) : Prop where
  read : ∀ kind : Kind, kind.isNumeric = true → coerceTo kind (.str n.text) = some (.num n)
  remade : ∀ text kind : Kind, text.isTextual = true → kind.isNumeric = true →
    (coerceTo text (.num n)).bind (coerceTo kind) = some (.num n)
  popped : ∀ (kind : Kind) (cursor : Cursor) (rest : List Json), kind.isNumeric = true →
    cursor.unread = .str n.text :: rest → (cursor.pop (some kind)).value = some (.num n)
  inlined : ∀ kind : Kind, kind.isNumeric = true → inlineValue (some kind) (.str n.text) = .num n

/-- Where a number is expected, a string is the number that it writes. -/
theorem coerceTo_numeric (kind : Kind) (h : kind.isNumeric = true) (s : String) :
    coerceTo kind (.str s) = (numberOfText? s).map .num := by
  cases kind with
  | int | float => rfl
  | string | combo | boolean | file | enum => cases h

/-- Where text is expected, a number is its text. -/
theorem coerceTo_textual (kind : Kind) (h : kind.isTextual = true) (n : Number) :
    coerceTo kind (.num n) = some (.str n.text) := by
  cases kind with
  | string | combo | file | enum => rfl
  | int | float | boolean => cases h

/-- A number survives if its text is read as the number; everything else follows. -/
theorem survivesText_of_read (n : Number) (h : numberOfText? n.text = some n) :
    n.SurvivesText := by
  have hread : ∀ kind : Kind, kind.isNumeric = true →
      coerceTo kind (.str n.text) = some (.num n) := by
    intro kind hkind
    rw [coerceTo_numeric kind hkind, h]
    rfl
  refine ⟨hread, fun text kind htext hkind => ?_, fun kind cursor rest hkind hunread => ?_,
    fun kind hkind => ?_⟩
  · rw [coerceTo_textual text htext, Option.bind_some, hread kind hkind]
  · exact (Cursor.pop_of_fits (some kind) cursor _ _ rest hunread (hread kind hkind)).1
  · unfold inlineValue
    simp only [hkind, if_true, hread kind hkind, Option.getD_some]

theorem survivesText_of_signed (i : Int) (fits : FitsWord i) (h : i < 0x8000000000000000) :
    (Number.int i fits).SurvivesText :=
  survivesText_of_read _ ((numberOfText?_integerText i fits).trans (if_pos h))

/-- An integer without a sign whose highest bit is set is read as a double, off by `2 ^ 10` at
    most. -/
theorem coerceTo_text_of_large (i : Int) (fits : FitsWord i) (h : 0x8000000000000000 ≤ i) :
    ∃ x : Binary64, x.IsNear i.natAbs 1024 ∧ ∀ kind : Kind, kind.isNumeric = true →
      coerceTo kind (.str (integerText i)) = some (.num (.double x)) := by
  have hhigh := fits.2
  rcases Binary64.ofNat?_near i.natAbs (by omega) (by omega) with ⟨x, hx, hnear⟩
  refine ⟨x, hnear, fun kind hkind => ?_⟩
  rw [coerceTo_numeric kind hkind, numberOfText?_integerText i fits, if_neg (Int.not_lt.mpr h), hx]
  rfl

theorem not_survivesText_of_large (i : Int) (fits : FitsWord i) (h : 0x8000000000000000 ≤ i) :
    ¬(Number.int i fits).SurvivesText := by
  intro hsurvives
  rcases coerceTo_text_of_large i fits h with ⟨x, -, hread⟩
  have hboth := (hsurvives.read .int rfl).symm.trans (hread .int rfl)
  cases hboth

/-- An integer is not altered by being held as text exactly if it has 64 bits with its sign. Any
    other is read as a double that is off by `2 ^ 10` at most. -/
theorem survivesText_iff (i : Int) (fits : FitsWord i) :
    ((Number.int i fits).SurvivesText ↔ i < 0x8000000000000000) ∧
      (0x8000000000000000 ≤ i → ∃ x : Binary64, x.IsNear i.natAbs 1024 ∧
        ∀ kind : Kind, kind.isNumeric = true →
          coerceTo kind (.str (integerText i)) = some (.num (.double x))) := by
  refine ⟨⟨fun hsurvives => ?_, survivesText_of_signed i fits⟩, coerceTo_text_of_large i fits⟩
  by_contra hlarge
  exact not_survivesText_of_large i fits (Int.not_lt.mp hlarge) hsurvives

/-- The largest integer with a sign survives. -/
theorem largestSigned_survivesText :
    FitsWord 0x7fffffffffffffff ∧
      (Number.int 0x7fffffffffffffff (by decide)).SurvivesText :=
  ⟨by decide, (survivesText_iff _ (by decide)).1.mpr (by decide)⟩

/-- The largest integer without a sign does not. -/
theorem largestUnsigned_not_survivesText :
    numberOfText? (Number.int 0xffffffffffffffff (by decide)).text =
        some (.double ⟨false, 1087 * 2 ^ 52, by decide⟩) ∧
      ¬(Number.int 0xffffffffffffffff (by decide)).SurvivesText :=
  ⟨by decide +kernel, not_survivesText_of_large _ _ (by decide)⟩

end Number

end PromptGraph
