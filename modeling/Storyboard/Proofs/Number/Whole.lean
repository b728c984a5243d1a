import Mathlib.Algebra.Group.Nat.Defs
import Mathlib.Tactic.Common
import Storyboard.Number.Binary

/-!
# Whole numbers in double precision

A whole number of at most 53 bits is a binary number of 64 bits, so rounding it to a whole number
gives it back.
-/

namespace Storyboard

namespace Fraction

lemma binade_ofNat {n : Nat} (h : n ≠ 0) : (ofNat n).binade = n.log2 := by
  have hlog : (1 : Nat).log2 = 0 := rfl
  have hle : 2 ^ n.log2 ≤ n := Nat.log2_self_le h
  have hfloor : 1 ≤ ((ofNat n).timesPower 2 (-(n.log2 : Int))).floor := by
    unfold timesPower
    split
    · simp only [floor, ofNat, Nat.div_one]
      exact Nat.mul_pos (Nat.pos_of_ne_zero h) (Nat.pow_pos (by decide))
    · simp only [floor, ofNat, Int.neg_neg, Int.toNat_natCast, Nat.one_mul]
      exact (Nat.one_le_div_iff (Nat.pow_pos (by decide))).mpr hle
  simp only [binade, ofNat, hlog, Int.natCast_zero, Int.sub_zero] at hfloor ⊢
  rw [if_pos hfloor]

/-- Scaling up keeps a whole number whole. -/
lemma roundEven_ofNat_timesPower (n k : Nat) :
    ((ofNat n).timesPower 2 (k : Int)).roundEven = n * 2 ^ k := by
  simp [timesPower, ofNat, roundEven, Nat.mod_one]

/-- Scaling down by the same power gives the whole number back. -/
lemma roundUp_timesPower_neg (n k : Nat) :
    ((ofNat (n * 2 ^ k)).timesPower 2 (-(k : Int))).roundUp = n := by
  have hpos : 0 < 2 ^ k := Nat.pow_pos (by decide)
  have key : (2 * (n * 2 ^ k) + 2 ^ k) / (2 * 2 ^ k) = n := by
    rw [show 2 * (n * 2 ^ k) + 2 ^ k = 2 ^ k + n * (2 * 2 ^ k) by
        rw [Nat.add_comm, Nat.mul_left_comm],
      Nat.add_mul_div_right _ _ (by omega), Nat.div_eq_of_lt (by omega), Nat.zero_add]
  unfold timesPower
  split
  · obtain rfl : k = 0 := by omega
    simpa [roundUp, ofNat] using key
  · simpa [roundUp, ofNat] using key

end Fraction

namespace Precision

lemma minExponent_double : double.minExponent = -1074 := rfl

lemma run_double : double.run = 2 ^ 52 := rfl

lemma ranks_double : double.ranks = 2047 * 2 ^ 52 := rfl

/-- The bits of a whole number filled up to a mantissa. -/
def filled (n : Nat) : Nat :=
  n * 2 ^ (52 - n.log2)

lemma filled_bounds {n : Nat} (h₀ : n ≠ 0) (h : n < 2 ^ 53) :
    2 ^ 52 ≤ filled n ∧ filled n < 2 ^ 53 := by
  have hlog : n.log2 < 53 := (Nat.log2_lt h₀).mpr h
  have hlo : 2 ^ n.log2 ≤ n := Nat.log2_self_le h₀
  have hhi : n < 2 ^ (n.log2 + 1) := Nat.lt_log2_self
  constructor
  · calc 2 ^ 52 = 2 ^ n.log2 * 2 ^ (52 - n.log2) := by rw [← Nat.pow_add]; congr 1; omega
      _ ≤ filled n := Nat.mul_le_mul_right _ hlo
  · calc filled n < 2 ^ (n.log2 + 1) * 2 ^ (52 - n.log2) :=
          Nat.mul_lt_mul_of_pos_right hhi (Nat.pow_pos (by decide))
      _ = 2 ^ 53 := by rw [← Nat.pow_add]; congr 1; omega

/-- The mantissa of a whole number comes after all smaller steps. -/
lemma nearestRank_ofNat {n : Nat} (h₀ : n ≠ 0) (h : n < 2 ^ 53) :
    double.nearestRank (.ofNat n) = filled n + (n.log2 + 1022) * 2 ^ 52 := by
  have hlog : n.log2 < 53 := (Nat.log2_lt h₀).mpr h
  have hfilled := filled_bounds h₀ h
  have he : max ((n.log2 : Int) - 52) (-1074) = n.log2 - 52 := by omega
  have hscale : -((n.log2 : Int) - 52) = ((52 - n.log2 : Nat) : Int) := by omega
  have hsteps : ((n.log2 : Int) - 52 - -1074).toNat = n.log2 + 1022 := by omega
  have hnum : (Fraction.ofNat n).num ≠ 0 := h₀
  have hbits : (double.fractionBits : Int) = 52 := rfl
  simp only [nearestRank, if_neg hnum, Fraction.binade_ofNat h₀, hbits, minExponent_double, he,
    hscale, Fraction.roundEven_ofNat_timesPower, hsteps, run_double, ranks_double]
  rw [← filled]
  omega

lemma doublings_filled {n : Nat} (h₀ : n ≠ 0) (h : n < 2 ^ 53) :
    double.doublings (filled n + (n.log2 + 1022) * 2 ^ 52) = n.log2 + 1022 := by
  have hfilled := filled_bounds h₀ h
  rw [doublings, run_double]
  omega

/-- The magnitude at the rank of a whole number is the number. -/
lemma magnitude_nearestRank_ofNat {n : Nat} (h₀ : n ≠ 0) (h : n < 2 ^ 53) :
    double.magnitude (double.nearestRank (.ofNat n))
      = (Fraction.ofNat (n * 2 ^ (52 - n.log2))).timesPower 2 (-((52 - n.log2 : Nat) : Int)) := by
  have hlog : n.log2 < 53 := (Nat.log2_lt h₀).mpr h
  have hmantissa : double.mantissa (filled n + (n.log2 + 1022) * 2 ^ 52) = filled n := by
    rw [mantissa, doublings_filled h₀ h, run_double, Nat.add_sub_cancel]
  have hexponent : double.exponent (filled n + (n.log2 + 1022) * 2 ^ 52)
      = -((52 - n.log2 : Nat) : Int) := by
    rw [exponent, doublings_filled h₀ h, minExponent_double]
    omega
  rw [magnitude, nearestRank_ofNat h₀ h, hmantissa, hexponent, filled]

lemma roundUp_magnitude_ofNat {n : Nat} (h : n < 2 ^ 53) :
    (double.magnitude (double.nearestRank (.ofNat n))).roundUp = n := by
  rcases Nat.eq_zero_or_pos n with rfl | hn
  · decide +kernel
  · rw [magnitude_nearestRank_ofNat (Nat.pos_iff_ne_zero.mp hn) h, Fraction.roundUp_timesPower_neg]

end Precision

/-- A whole number in double precision is rounded to itself. -/
theorem Binary.roundWithin_ofInt {i : Int} (h : i.natAbs < 2 ^ 53) (lo hi : Int) :
    (Binary.ofInt .double i).roundWithin lo hi = Binary.clip lo hi i := by
  have hround := Precision.roundUp_magnitude_ofNat h
  have hi : (if i < 0 then -(i.natAbs : Int) else (i.natAbs : Int)) = i := by
    split <;> omega
  simp only [roundWithin, ofInt, nearest, Binary.magnitude, hround, decide_eq_true_eq, hi]

end Storyboard
