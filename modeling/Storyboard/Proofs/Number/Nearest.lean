import Mathlib.Algebra.Order.Field.Power
import Mathlib.Data.Int.Log
import Mathlib.Data.Rat.Floor
import Mathlib.Tactic.NormNum
import Mathlib.Tactic.Positivity
import Mathlib.Tactic.Ring
import Storyboard.Number.Decimal

/-!
# Rounding by value

How a fraction is rounded depends on its value alone, and not on its numerator and denominator. So
decimals of one value are nearest to one binary number; and every binary number is nearest to its
own magnitude.
-/

namespace Storyboard

/-! ### Logarithms -/

section Log

variable {b : ℕ} {r : ℚ}

/-- The logarithm of a number between two powers. -/
lemma log_eq {e : ℤ} (hb : 1 < b) (hr : 0 < r) (hlow : (b : ℚ) ^ e ≤ r)
    (hhigh : r < (b : ℚ) ^ (e + 1)) : Int.log b r = e := by
  have hle : e ≤ Int.log b r := (Int.zpow_le_iff_le_log hb hr).mp hlow
  have hlt : Int.log b r < e + 1 := (Int.lt_zpow_iff_log_lt hb hr).mp hhigh
  omega

/-- A power that a number is scaled by adds to its logarithm. -/
lemma log_natCast_mul_zpow {n : ℕ} (hb : 1 < b) (hn : n ≠ 0) (e : ℤ) :
    Int.log b ((n : ℚ) * (b : ℚ) ^ e) = Nat.log b n + e := by
  have hb' : (0 : ℚ) < b := by exact_mod_cast Nat.zero_lt_of_lt hb
  have hn' : (0 : ℚ) < n := by exact_mod_cast Nat.pos_of_ne_zero hn
  have hlow : ((b : ℚ) ^ Nat.log b n) ≤ n := by exact_mod_cast Nat.pow_log_le_self b hn
  have hhigh : (n : ℚ) < (b : ℚ) ^ (Nat.log b n + 1) := by
    exact_mod_cast Nat.lt_pow_succ_log_self hb n
  refine log_eq hb (by positivity) ?_ ?_
  · rw [zpow_add₀ hb'.ne', zpow_natCast]
    gcongr
  · rw [show (Nat.log b n : ℤ) + e + 1 = ((Nat.log b n + 1 : ℕ) : ℤ) + e by push_cast; ring,
      zpow_add₀ hb'.ne', zpow_natCast]
    gcongr

end Log

/-! ### Fractions -/

namespace Fraction

variable {f g : Fraction}

/-- The value of a fraction. -/
def value (f : Fraction) : ℚ :=
  f.num / f.den

@[simp] lemma value_ofNat (n : ℕ) : (ofNat n).value = n := by
  simp [value, ofNat]

lemma value_pos (hn : f.num ≠ 0) (hd : 0 < f.den) : 0 < f.value := by
  have hn' : 0 < f.num := Nat.pos_of_ne_zero hn
  rw [value]
  positivity

lemma value_eq_zero_iff (hd : 0 < f.den) : f.value = 0 ↔ f.num = 0 := by
  have hd' : (f.den : ℚ) ≠ 0 := by exact_mod_cast hd.ne'
  simp [value, hd']

lemma den_timesPower_pos {b : ℕ} (hb : 0 < b) (hd : 0 < f.den) (e : ℤ) :
    0 < (f.timesPower b e).den := by
  rw [timesPower]
  split
  · exact hd
  · exact Nat.mul_pos hd (Nat.pow_pos hb)

lemma value_timesPower {b : ℕ} (hb : 0 < b) (f : Fraction) (e : ℤ) :
    (f.timesPower b e).value = f.value * (b : ℚ) ^ e := by
  have hb' : (b : ℚ) ≠ 0 := by exact_mod_cast hb.ne'
  by_cases he : 0 ≤ e
  · obtain ⟨k, rfl⟩ := Int.eq_ofNat_of_zero_le he
    rw [timesPower, if_pos he, value, value]
    rw [Int.toNat_natCast, Nat.pow_eq, zpow_natCast, Nat.cast_mul, Nat.cast_pow,
      mul_div_right_comm]
  · obtain ⟨k, rfl⟩ : ∃ k : ℕ, e = -(k : ℤ) := ⟨(-e).toNat, by omega⟩
    rw [timesPower, if_neg he, value, value, neg_neg, Int.toNat_natCast, Nat.pow_eq, zpow_neg,
      zpow_natCast, Nat.cast_mul, Nat.cast_pow, ← div_eq_mul_inv, div_div]

/-- Numerator and denominator may be multiplied by one number. -/
lemma roundEven_scale {c : ℕ} (hc : 0 < c) (a b : ℕ) :
    (⟨c * a, c * b⟩ : Fraction).roundEven = (⟨a, b⟩ : Fraction).roundEven := by
  have hlt : ∀ x y : ℕ, c * x < c * y ↔ x < y := fun x y => Nat.mul_lt_mul_left hc
  simp only [roundEven, Nat.mul_div_mul_left _ _ hc, Nat.mul_mod_mul_left, Nat.mul_left_comm 2 c,
    hlt]

lemma roundEven_congr (hf : 0 < f.den) (hg : 0 < g.den) (h : f.value = g.value) :
    f.roundEven = g.roundEven := by
  have hcross : g.den * f.num = f.den * g.num := by
    have hf' : (f.den : ℚ) ≠ 0 := by exact_mod_cast hf.ne'
    have hg' : (g.den : ℚ) ≠ 0 := by exact_mod_cast hg.ne'
    rw [value, value, div_eq_div_iff hf' hg'] at h
    have hnat : f.num * g.den = g.num * f.den := by exact_mod_cast h
    rw [Nat.mul_comm, hnat, Nat.mul_comm]
  calc f.roundEven = (⟨g.den * f.num, g.den * f.den⟩ : Fraction).roundEven :=
        (roundEven_scale hg _ _).symm
    _ = (⟨f.den * g.num, f.den * g.den⟩ : Fraction).roundEven := by
        rw [hcross, Nat.mul_comm g.den f.den]
    _ = g.roundEven := roundEven_scale hf _ _

/-- Whole numbers are rounded to themselves. -/
lemma roundEven_of_value {n : ℕ} (hd : 0 < f.den) (h : f.value = n) : f.roundEven = n := by
  have hwhole : (ofNat n).roundEven = n := by simp [roundEven, ofNat, Nat.mod_one]
  rw [← hwhole]
  exact roundEven_congr hd Nat.one_pos (h.trans (value_ofNat n).symm)

lemma one_le_floor_iff (hd : 0 < f.den) : 1 ≤ f.floor ↔ 1 ≤ f.value := by
  have hd' : (0 : ℚ) < f.den := by exact_mod_cast hd
  rw [floor, Nat.one_le_div_iff hd, value, one_le_div hd']
  exact Nat.cast_le.symm

/-- The binade of a fraction is the logarithm of its value. -/
lemma binade_eq_log (hn : f.num ≠ 0) (hd : 0 < f.den) : f.binade = Int.log 2 f.value := by
  have hpos := value_pos hn hd
  have hden : (0 : ℚ) < f.den := by exact_mod_cast hd
  have hn₁ : ((2 : ℚ) ^ f.num.log2) ≤ f.num := by exact_mod_cast Nat.log2_self_le hn
  have hn₂ : (f.num : ℚ) < 2 ^ (f.num.log2 + 1) := by exact_mod_cast Nat.lt_log2_self
  have hd₁ : ((2 : ℚ) ^ f.den.log2) ≤ f.den := by exact_mod_cast Nat.log2_self_le hd.ne'
  have hd₂ : (f.den : ℚ) < 2 ^ (f.den.log2 + 1) := by exact_mod_cast Nat.lt_log2_self
  -- The difference of the logarithms is the logarithm of the quotient, or one more than it.
  have hlow : (2 : ℚ) ^ ((f.num.log2 : ℤ) - f.den.log2 - 1) ≤ f.value := by
    rw [sub_sub, zpow_sub₀ two_ne_zero, zpow_natCast, value, div_le_div_iff₀ (by positivity) hden]
    calc (2 : ℚ) ^ f.num.log2 * f.den ≤ f.num * 2 ^ (f.den.log2 + 1) := by gcongr
      _ = f.num * 2 ^ ((f.den.log2 : ℤ) + 1) := by norm_cast
  have hhigh : f.value < (2 : ℚ) ^ ((f.num.log2 : ℤ) - f.den.log2 + 1) := by
    rw [sub_add_eq_add_sub, zpow_sub₀ two_ne_zero, zpow_natCast, value,
      div_lt_div_iff₀ hden (by positivity)]
    calc (f.num : ℚ) * 2 ^ f.den.log2 ≤ f.num * f.den := by gcongr
      _ < 2 ^ (f.num.log2 + 1) * f.den := by gcongr
      _ = 2 ^ ((f.num.log2 : ℤ) + 1) * f.den := by norm_cast
  have hfloor : 1 ≤ (f.timesPower 2 (-((f.num.log2 : ℤ) - f.den.log2))).floor ↔
      (2 : ℚ) ^ ((f.num.log2 : ℤ) - f.den.log2) ≤ f.value := by
    rw [one_le_floor_iff (den_timesPower_pos two_pos hd _), value_timesPower two_pos, zpow_neg,
      ← div_eq_mul_inv, Nat.cast_ofNat, one_le_div (by positivity)]
  rw [binade]
  split
  · rename_i h
    exact (log_eq Nat.one_lt_two hpos (by exact_mod_cast hfloor.mp h) (by exact_mod_cast hhigh)).symm
  · rename_i h
    refine (log_eq Nat.one_lt_two hpos (by exact_mod_cast hlow) ?_).symm
    rw [sub_add_cancel]
    exact_mod_cast not_le.mp fun hle => h (hfloor.mpr hle)

end Fraction

/-! ### Binary numbers -/

namespace Precision

variable (p : Precision) {f g : Fraction} {rank : ℕ}

/-- The rank of a fraction depends on its value alone. -/
lemma nearestRank_congr (hf : 0 < f.den) (hg : 0 < g.den) (h : f.value = g.value) :
    p.nearestRank f = p.nearestRank g := by
  have hzero : f.num = 0 ↔ g.num = 0 := by
    rw [← Fraction.value_eq_zero_iff hf, ← Fraction.value_eq_zero_iff hg, h]
  by_cases hn : f.num = 0
  · rw [nearestRank, if_pos hn, nearestRank, if_pos (hzero.mp hn)]
  · have hn' : g.num ≠ 0 := fun h' => hn (hzero.mpr h')
    have hbinade : f.binade = g.binade := by
      rw [Fraction.binade_eq_log hn hf, Fraction.binade_eq_log hn' hg, h]
    have hround : ∀ e : ℤ, (f.timesPower 2 e).roundEven = (g.timesPower 2 e).roundEven := by
      intro e
      refine Fraction.roundEven_congr (Fraction.den_timesPower_pos two_pos hf e)
        (Fraction.den_timesPower_pos two_pos hg e) ?_
      rw [Fraction.value_timesPower two_pos, Fraction.value_timesPower two_pos, h]
    simp only [nearestRank, if_neg hn, if_neg hn', hbinade, hround]

lemma run_pos : 0 < p.run :=
  Nat.pow_pos two_pos

lemma mantissa_add (rank : ℕ) : p.mantissa rank + p.doublings rank * p.run = rank := by
  have hle : p.doublings rank * p.run ≤ rank :=
    (Nat.mul_le_mul_right _ (Nat.sub_le _ _)).trans (Nat.div_mul_le_self _ _)
  rw [mantissa, Nat.sub_add_cancel hle]

/-- A mantissa has no more bits than the precision, and no fewer once the step has doubled. -/
lemma mantissa_bounds (rank : ℕ) :
    p.mantissa rank < 2 * p.run ∧ (p.doublings rank ≠ 0 → p.run ≤ p.mantissa rank) := by
  have hdiv := Nat.div_add_mod rank p.run
  have hmod := Nat.mod_lt rank p.run_pos
  rcases hq : rank / p.run with _ | q
  · have hzero : p.doublings rank = 0 := by rw [doublings, hq]
    have hlt : rank < p.run := (Nat.div_eq_zero_iff_lt p.run_pos).mp hq
    refine ⟨?_, fun h => absurd hzero h⟩
    rw [mantissa, hzero]
    omega
  · have hq' : p.doublings rank = q := by rw [doublings, hq, Nat.add_sub_cancel]
    have hrank : rank = q * p.run + p.run + rank % p.run := by
      rw [hq, Nat.mul_comm, Nat.add_mul, Nat.one_mul] at hdiv
      exact hdiv.symm
    rw [mantissa, hq']
    omega

lemma mantissa_ne_zero (h : rank ≠ 0) : p.mantissa rank ≠ 0 := by
  intro hm
  have hadd := p.mantissa_add rank
  have hlow := (p.mantissa_bounds rank).2
  have hrun := p.run_pos
  by_cases hd : p.doublings rank = 0
  · rw [hm, hd] at hadd
    omega
  · have := hlow hd
    omega

lemma den_magnitude_pos (rank : ℕ) : 0 < (p.magnitude rank).den :=
  Fraction.den_timesPower_pos two_pos Nat.one_pos _

lemma value_magnitude (rank : ℕ) :
    (p.magnitude rank).value = (p.mantissa rank : ℚ) * 2 ^ p.exponent rank := by
  rw [magnitude, Fraction.value_timesPower two_pos, Fraction.value_ofNat, Nat.cast_ofNat]

lemma value_magnitude_zero : (p.magnitude 0).value = 0 := by
  rw [value_magnitude]
  simp [mantissa]

lemma num_magnitude_ne_zero (h : rank ≠ 0) : (p.magnitude rank).num ≠ 0 := by
  have hm : (p.mantissa rank : ℚ) ≠ 0 := by exact_mod_cast p.mantissa_ne_zero h
  rw [Ne, ← Fraction.value_eq_zero_iff (p.den_magnitude_pos rank), value_magnitude]
  positivity

/-- The step at a rank is the one to which its magnitude is rounded. -/
lemma exponent_eq_max (h : rank ≠ 0) :
    max ((p.magnitude rank).binade - p.fractionBits) p.minExponent = p.exponent rank := by
  have hm := p.mantissa_ne_zero h
  obtain ⟨hhigh, hlow⟩ := p.mantissa_bounds rank
  have hbinade : (p.magnitude rank).binade = Nat.log 2 (p.mantissa rank) + p.exponent rank := by
    rw [Fraction.binade_eq_log (p.num_magnitude_ne_zero h) (p.den_magnitude_pos rank),
      value_magnitude]
    exact_mod_cast log_natCast_mul_zpow Nat.one_lt_two hm (p.exponent rank)
  have hle : Nat.log 2 (p.mantissa rank) ≤ p.fractionBits := by
    rw [run, Nat.pow_eq, ← Nat.pow_succ'] at hhigh
    exact Nat.lt_succ_iff.mp (Nat.log_lt_of_lt_pow hm hhigh)
  rw [hbinade, exponent]
  by_cases hd : p.doublings rank = 0
  · omega
  · have hge : p.fractionBits ≤ Nat.log 2 (p.mantissa rank) :=
      Nat.le_log_of_pow_le Nat.one_lt_two (hlow hd)
    omega

/-- Every magnitude is nearest to itself. -/
theorem nearestRank_magnitude (h : rank ≤ p.ranks) : p.nearestRank (p.magnitude rank) = rank := by
  rcases Nat.eq_zero_or_pos rank with rfl | hpos
  · have hnum : (p.magnitude 0).num = 0 := by
      rw [← Fraction.value_eq_zero_iff (p.den_magnitude_pos 0), value_magnitude_zero]
    rw [nearestRank, if_pos hnum]
  · have hne : rank ≠ 0 := hpos.ne'
    have hnum := p.num_magnitude_ne_zero hne
    have hround : ((p.magnitude rank).timesPower 2 (-p.exponent rank)).roundEven
        = p.mantissa rank := by
      refine Fraction.roundEven_of_value
        (Fraction.den_timesPower_pos two_pos (p.den_magnitude_pos rank) _) ?_
      rw [Fraction.value_timesPower two_pos, value_magnitude, mul_assoc, Nat.cast_ofNat,
        ← zpow_add₀ two_ne_zero, add_neg_cancel, zpow_zero, mul_one]
    have hsteps : (p.exponent rank - p.minExponent).toNat = p.doublings rank := by
      rw [exponent]
      omega
    simp only [nearestRank, if_neg hnum, p.exponent_eq_max hne, hround, hsteps, p.mantissa_add]
    exact Nat.min_eq_left h

end Precision

namespace Binary

variable {p : Precision}

/-- Every number is nearest to its magnitude with its sign. -/
theorem nearest_magnitude (x : Binary p) : nearest p x.negative x.magnitude = x := by
  have hrank : p.nearestRank x.magnitude = x.rank :=
    p.nearestRank_magnitude (Nat.lt_succ_iff.mp x.rank.isLt)
  obtain ⟨negative, rank⟩ := x
  simp only [nearest, mk.injEq, true_and]
  exact Fin.ext hrank

lemma nearest_congr {f g : Fraction} (negative : Bool) (hf : 0 < f.den) (hg : 0 < g.den)
    (h : f.value = g.value) : nearest p negative f = nearest p negative g := by
  simp only [nearest, p.nearestRank_congr hf hg h]

lemma nearest_zero (negative : Bool) : nearest p negative (.ofNat 0) = ⟨negative, 0⟩ := rfl

end Binary

/-! ### Decimals -/

namespace Decimal

variable {c d : Decimal}

/-- The value of a decimal. -/
def value (d : Decimal) : ℚ :=
  d.units * 10 ^ d.exponent

lemma value_eq_zero_iff : d.value = 0 ↔ d.units = 0 := by
  simp [value, zpow_ne_zero]

lemma den_toFraction_pos (d : Decimal) : 0 < d.toFraction.den :=
  Fraction.den_timesPower_pos (by decide) Nat.one_pos _

lemma value_toFraction (d : Decimal) : d.toFraction.value = d.value := by
  rw [toFraction, Fraction.value_timesPower (by decide), Fraction.value_ofNat, value,
    Nat.cast_ofNat]

lemma digitCount_eq_log {n : ℕ} (hn : n ≠ 0) : Fraction.digitCount n = Nat.log 10 n + 1 := by
  refine Nat.le_antisymm ?_ ?_
  · exact (Nat.length_toDigits_le_iff (by decide) (Nat.succ_pos _)).mpr
      (Nat.lt_pow_succ_log_self (by decide) n)
  · refine Nat.succ_le_of_lt (Nat.log_lt_of_lt_pow hn ?_)
    exact (Nat.length_toDigits_le_iff (by decide) Nat.length_toDigits_pos).mp le_rfl

/-- The place of the first digit follows from the value. -/
lemma top_eq_log (h : d.units ≠ 0) :
    (Fraction.digitCount d.units : ℤ) + d.exponent = Int.log 10 d.value + 1 := by
  have hlog := log_natCast_mul_zpow (b := 10) (by decide) h d.exponent
  rw [digitCount_eq_log h, value, ← Nat.cast_ofNat (R := ℚ) (n := 10), hlog]
  push_cast
  ring

/-- Decimals of one value are nearest to one number. -/
theorem nearest_congr (p : Precision) (negative : Bool) (h : c.value = d.value) :
    c.nearest p negative = d.nearest p negative := by
  have hzero : c.units = 0 ↔ d.units = 0 := by
    rw [← value_eq_zero_iff, ← value_eq_zero_iff, h]
  by_cases hc : c.units = 0
  · rw [nearest, if_pos (.inl hc), nearest, if_pos (.inl (hzero.mp hc))]
  · have hd : d.units ≠ 0 := fun h' => hc (hzero.mpr h')
    have htop : (Fraction.digitCount c.units : ℤ) + c.exponent
        = Fraction.digitCount d.units + d.exponent := by
      rw [top_eq_log hc, top_eq_log hd, h]
    have hround : Binary.nearest p negative c.toFraction = .nearest p negative d.toFraction :=
      Binary.nearest_congr negative c.den_toFraction_pos d.den_toFraction_pos
        (by rw [value_toFraction, value_toFraction, h])
    simp only [nearest, htop, hround, hc, hd]

end Decimal

end Storyboard
