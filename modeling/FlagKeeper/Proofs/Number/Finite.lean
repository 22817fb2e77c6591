import FlagKeeper.Number.Double
import Mathlib.Algebra.GroupWithZero.Nat

/-!
# Integers as doubles

The double nearest to an integer of 64 bits is finite: however the significand is rounded, the exponent stays far from that of the
infinities.
-/

namespace FlagKeeper.Double

/-- Other bits below those of an infinity are those of a finite number. -/
theorem isFinite_ofMagnitude (negative : Bool) {magnitude : Nat} (below : magnitude < 2047 * fractionCount) :
    (ofMagnitude negative magnitude).isFinite = true := by
  have small : magnitude < 2 ^ 63 := Nat.lt_of_lt_of_le below (by decide)
  have bits : (ofMagnitude negative magnitude).magnitudeBits = magnitude := by
    unfold magnitudeBits ofMagnitude
    rw [UInt64.toNat_ofNat', negativeCount]
    cases negative
    · simp only [Bool.false_eq_true, if_false]
      omega
    · simp only [if_true]
      omega
  unfold isFinite biasedExponent
  rw [bits, decide_eq_true_iff]
  exact Nat.div_lt_of_lt_mul (Nat.mul_comm .. ▸ below)

theorem roundRatio_le (num den : Nat) : roundRatio num den ≤ num / den + 1 := by
  unfold roundRatio
  dsimp only
  split
  · exact Nat.le_refl _
  · exact Nat.le_succ _

/-- With a shift that leaves no more than 54 binary digits of a number, what is left is as small as that. -/
theorem scaleRatio_lt {num : Nat} {shift : Int} (room : (num.log2 : Int) - 53 ≤ shift) :
    (scaleRatio num 1 (-shift)).1 / (scaleRatio num 1 (-shift)).2 < 2 ^ 54 := by
  have width : num < 2 ^ (num.log2 + 1) := Nat.lt_log2_self
  unfold scaleRatio
  split
  case isTrue left =>
    have digits : num.log2 + 1 + (-shift).toNat ≤ 54 := by omega
    rw [Nat.div_one]
    calc num * Nat.pow 2 (-shift).toNat
      _ < 2 ^ (num.log2 + 1) * 2 ^ (-shift).toNat := Nat.mul_lt_mul_of_pos_right width (Nat.two_pow_pos _)
      _ = 2 ^ (num.log2 + 1 + (-shift).toNat) := (Nat.pow_add ..).symm
      _ ≤ 2 ^ 54 := Nat.pow_le_pow_right Nat.two_pos digits
  case isFalse right =>
    have digits : num.log2 + 1 ≤ 54 + (- -shift).toNat := by omega
    refine Nat.div_lt_of_lt_mul ?_
    calc num
      _ < 2 ^ (num.log2 + 1) := width
      _ ≤ 2 ^ (54 + (- -shift).toNat) := Nat.pow_le_pow_right Nat.two_pos digits
      _ = 1 * Nat.pow 2 (- -shift).toNat * 2 ^ 54 := by rw [Nat.one_mul, Nat.pow_add, Nat.mul_comm]; rfl

/-- A natural number of 64 bits rounds to a finite number. -/
theorem isFinite_ofRatio (negative : Bool) {num : Nat} (fits : num < 2 ^ 64) : (ofRatio negative num 1).isFinite = true := by
  have width : num.log2 ≤ 63 := by
    rcases Nat.eq_zero_or_pos num with rfl | pos
    · decide
    · exact Nat.lt_succ_iff.1 ((Nat.log2_lt (Nat.pos_iff_ne_zero.1 pos)).2 fits)
  have fraction : fractionCount = 2 ^ 52 := rfl
  unfold ofRatio
  dsimp only
  generalize guessed : (max (-1074) ((num.log2 : Int) - (Nat.log2 1 : Nat) - 53) : Int) = guess
  have one : Nat.log2 1 = 0 := by decide
  rw [one] at guessed
  generalize shifted : (if (scaleRatio num 1 (-guess)).1 / (scaleRatio num 1 (-guess)).2 ≥ 2 * fractionCount then guess + 1
    else guess) = shift
  have low : guess ≤ shift ∧ shift ≤ guess + 1 := by
    rw [← shifted]
    split <;> omega
  have rounded := roundRatio_le (scaleRatio num 1 (-shift)).1 (scaleRatio num 1 (-shift)).2
  have left : (scaleRatio num 1 (-shift)).1 / (scaleRatio num 1 (-shift)).2 < 2 ^ 54 := scaleRatio_lt (by omega)
  have exponent : (shift + 1074).toNat ≤ 1085 := by omega
  have below : (shift + 1074).toNat * fractionCount + roundRatio (scaleRatio num 1 (-shift)).1 (scaleRatio num 1 (-shift)).2 <
      2047 * fractionCount := by
    rw [fraction]
    have whole := Nat.mul_le_mul_right (2 ^ 52) exponent
    omega
  rw [if_neg (Nat.not_le.2 below)]
  exact isFinite_ofMagnitude negative below

/-- The double nearest to an integer of 64 bits, with or without a sign, is finite. -/
theorem isFinite_ofInt {n : Int} (fits : (fitsSigned n || fitsUnsigned n) = true) : (ofInt n).isFinite = true := by
  have small : n.natAbs < 2 ^ 64 := by
    simp only [fitsSigned, fitsUnsigned, negativeCount, wordCount, Bool.or_eq_true, Bool.and_eq_true, decide_eq_true_eq] at fits
    omega
  unfold ofInt
  split
  · exact isFinite_ofMagnitude false (by decide)
  · exact isFinite_ofRatio _ small

end FlagKeeper.Double
