import Storyboard.Proofs.Number.Nearest
import Storyboard.Proofs.Number.Whole

/-!
# Shortest decimals

The decimal that is written for a finite number of double precision is nearest to this number. A
decimal with few digits is taken only if it is; and the exact decimal, which is there for a number
without one, has the number for its value.
-/

namespace Storyboard

namespace Binary

variable {p : Precision} {x : Binary p} {tie : Tie}

/-- A decimal that is chosen on a grid stands for the number. -/
lemma nearest_of_onGrid {e : ℤ} {u : ℕ} (h : x.onGrid tie e = some u) :
    (⟨u, e⟩ : Decimal).nearest p x.negative = x := by
  have hmem : u ∈ (x.neighbours e).filter fun u => x.readsBack ⟨u, e⟩ := by
    rw [onGrid] at h
    split at h
    · cases h
    · rename_i v hv
      obtain rfl := Option.some.inj h
      simp [hv]
    · rename_i v w us hv
      have hu := Option.some.inj h
      rw [hv, ← hu]
      split <;> simp
  exact of_decide_eq_true (List.mem_filter.mp hmem).2

lemma nearest_of_withDigits {decade : ℤ} {count : ℕ} {d : Decimal}
    (h : x.withDigits tie decade count = some d) : d.nearest p x.negative = x := by
  obtain ⟨u, hu, rfl⟩ := Option.map_eq_some_iff.mp h
  have hnearest := nearest_of_onGrid hu
  split
  · -- A power of ten is written with the digit one, which has the same value.
    rename_i hpower
    refine Eq.trans (Decimal.nearest_congr p x.negative ?_) hnearest
    simp only [Decimal.value]
    rw [hpower, Nat.pow_eq, add_comm, zpow_add₀ (by norm_num), zpow_natCast]
    push_cast
    ring
  · exact hnearest

lemma value_exactDecimal (x : Binary p) : x.exactDecimal.value = x.magnitude.value := by
  rw [magnitude, Precision.value_magnitude]
  by_cases he : 0 ≤ p.exponent x.rank
  · obtain ⟨k, hk⟩ := Int.eq_ofNat_of_zero_le he
    simp only [exactDecimal, if_pos he, Decimal.value]
    rw [hk, Int.toNat_natCast, Nat.pow_eq, zpow_zero, mul_one, Nat.cast_mul, Nat.cast_pow,
      Nat.cast_ofNat, zpow_natCast]
  · obtain ⟨k, hk⟩ : ∃ k : ℕ, p.exponent x.rank = -(k : ℤ) :=
      ⟨(-p.exponent x.rank).toNat, by omega⟩
    simp only [exactDecimal, if_neg he, Decimal.value]
    -- A tenth is a fifth of a half.
    rw [hk, neg_neg, Int.toNat_natCast, Nat.pow_eq, Nat.cast_mul, Nat.cast_pow, Nat.cast_ofNat,
      zpow_neg, zpow_neg, zpow_natCast, zpow_natCast, show (10 : ℚ) = 5 * 2 by norm_num, mul_pow,
      mul_inv, mul_assoc, ← mul_assoc ((5 : ℚ) ^ k), mul_inv_cancel₀ (pow_ne_zero k (by norm_num)),
      one_mul]

end Binary

/-! ### Double precision -/

namespace Precision

variable {rank : ℕ}

lemma exponent_double_le (h : rank < double.ranks) : double.exponent rank ≤ 971 := by
  have hrun := run_double
  rw [ranks_double] at h
  have hd : double.doublings rank ≤ 2045 := by
    rw [doublings, hrun]
    omega
  rw [exponent, minExponent_double]
  omega

lemma le_exponent_double (rank : ℕ) : -1074 ≤ double.exponent rank := by
  rw [exponent, minExponent_double]
  omega

/-- Three bits are less than a decimal digit. -/
lemma two_pow_le_ten_pow {k m : ℕ} (h : k ≤ 3 * m) : (2 : ℚ) ^ k ≤ 10 ^ m :=
  calc (2 : ℚ) ^ k ≤ 2 ^ (3 * m) := pow_le_pow_right₀ (by norm_num) h
    _ = 8 ^ m := by rw [pow_mul]; norm_num
    _ ≤ 10 ^ m := pow_le_pow_left₀ (by norm_num) (by norm_num) m

/-- Finite magnitudes are within the reach of decimals. -/
lemma log_magnitude_bounds (h₀ : rank ≠ 0) (h : rank < double.ranks) :
    -400 ≤ Int.log 10 (double.magnitude rank).value ∧
      Int.log 10 (double.magnitude rank).value < 400 := by
  have hm : (1 : ℚ) ≤ double.mantissa rank := by
    exact_mod_cast Nat.one_le_iff_ne_zero.mpr (double.mantissa_ne_zero h₀)
  have hm' : (double.mantissa rank : ℚ) < 2 ^ (53 : ℤ) := by
    have hbound := (double.mantissa_bounds rank).1
    rw [run_double] at hbound
    exact_mod_cast hbound
  have hvalue := double.value_magnitude rank
  have hpos : 0 < (double.magnitude rank).value := by
    rw [hvalue]
    positivity
  constructor
  · refine (Int.zpow_le_iff_le_log (by decide) hpos).mp ?_
    have hpower : ((10 : ℚ) ^ 400)⁻¹ ≤ (2 ^ 1074)⁻¹ :=
      inv_anti₀ (by positivity) (two_pow_le_ten_pow (by decide))
    calc ((10 : ℕ) : ℚ) ^ (-400 : ℤ) ≤ 1 * 2 ^ (-1074 : ℤ) := by
          rw [one_mul, zpow_neg, zpow_neg, zpow_ofNat, zpow_ofNat]
          exact hpower
      _ ≤ double.mantissa rank * 2 ^ double.exponent rank := by
        gcongr
        · norm_num
        · exact le_exponent_double rank
      _ = (double.magnitude rank).value := hvalue.symm
  · refine (Int.lt_zpow_iff_log_lt (by decide) hpos).mp ?_
    calc (double.magnitude rank).value = double.mantissa rank * 2 ^ double.exponent rank := hvalue
      _ < 2 ^ (53 : ℤ) * 2 ^ double.exponent rank := by gcongr
      _ ≤ 2 ^ (53 : ℤ) * 2 ^ (971 : ℤ) := by
        gcongr
        · norm_num
        · exact exponent_double_le h
      _ = (2 : ℚ) ^ 1024 := by rw [← zpow_add₀ two_ne_zero]; rfl
      _ ≤ 10 ^ 400 := two_pow_le_ten_pow (by decide)
      _ = ((10 : ℕ) : ℚ) ^ (400 : ℤ) := (zpow_ofNat _ 400).symm

end Precision

namespace Binary

variable {x : Double}

lemma isFinite_iff : x.isFinite = true ↔ x.rank.val < Precision.double.ranks := by
  simp [isFinite]

/-- The exact decimal of a number stands for it. -/
lemma nearest_exactDecimal (h₀ : x.rank.val ≠ 0) (h : x.isFinite = true) :
    x.exactDecimal.nearest .double x.negative = x := by
  have hvalue := x.value_exactDecimal
  obtain ⟨hlow, hhigh⟩ := Precision.log_magnitude_bounds h₀ (isFinite_iff.mp h)
  have hpos := Fraction.value_pos (Precision.num_magnitude_ne_zero _ h₀)
    (Precision.den_magnitude_pos .double x.rank)
  have hunits : x.exactDecimal.units ≠ 0 := by
    rw [Ne, ← Decimal.value_eq_zero_iff, hvalue]
    exact hpos.ne'
  have htop := Decimal.top_eq_log hunits
  rw [hvalue, magnitude] at htop
  rw [Decimal.nearest, if_neg, if_neg]
  · rw [← nearest_congr x.negative (Precision.den_magnitude_pos .double x.rank)
      x.exactDecimal.den_toFraction_pos]
    · exact x.nearest_magnitude
    · rw [Decimal.value_toFraction, hvalue, magnitude]
  · simp only [Decimal.reach]
    omega
  · simp only [hunits, false_or, Decimal.reach]
    omega

/-- The shortest decimal of a finite number stands for it. -/
theorem nearest_shortest (h : x.isFinite = true) (tie : Tie) :
    (x.shortest tie).nearest .double x.negative = x := by
  by_cases h₀ : x.rank.val = 0
  · obtain ⟨negative, rank⟩ := x
    obtain rfl : rank = 0 := Fin.ext h₀
    rfl
  · simp only [shortest, if_neg h₀]
    cases hfound : (List.range' 1 17).findSome? (x.withDigits tie x.magnitude.decade) with
    | none => exact nearest_exactDecimal h₀ h
    | some d =>
      obtain ⟨count, -, hcount⟩ := List.exists_of_findSome?_eq_some hfound
      exact nearest_of_withDigits hcount

/-- Only zero is written with the digit zero. -/
lemma shortest_of_units_eq_zero (h : x.isFinite = true) (hunits : (x.shortest tie).units = 0) :
    x.shortest tie = ⟨0, 0⟩ := by
  have hnearest := nearest_shortest h tie
  rw [Decimal.nearest, if_pos (.inl hunits), nearest_zero] at hnearest
  have h₀ : x.rank.val = 0 := by
    rw [← hnearest]
    rfl
  rw [shortest, if_pos h₀]

end Binary

end Storyboard
