import Mathlib.Tactic.FieldSimp
import Mathlib.Tactic.Linarith
import Storyboard.Proofs.Number.Shortest

/-!
# The nearest binary number

The number that is nearest to a decimal is so by its value: no other one is closer, and of two that
are equally close it is the one of even rank. By that it is determined. Infinity counts as the power
of two that follows the last finite magnitude.
-/

namespace Storyboard

/-! ### Whole numbers -/

/-- A whole number within a half is the closest one, and another is as close only at a half. -/
lemma dist_le_of_half {m n : ℕ} {x : ℚ} (h : |(m : ℚ) - x| ≤ 1 / 2) :
    |(m : ℚ) - x| ≤ |(n : ℚ) - x| ∧
      (n ≠ m → |(m : ℚ) - x| = |(n : ℚ) - x| → |(m : ℚ) - x| = 1 / 2) := by
  by_cases hn : n = m
  · rw [hn]
    exact ⟨le_rfl, fun hne => absurd rfl hne⟩
  · have hgap : (1 : ℚ) ≤ |(n : ℚ) - m| := by
      have hint : (1 : ℤ) ≤ |(n : ℤ) - m| := Int.one_le_abs (by omega)
      exact_mod_cast hint
    have htriangle : |(n : ℚ) - m| ≤ |(n : ℚ) - x| + |(m : ℚ) - x| := by
      rw [abs_sub_comm (m : ℚ) x]
      exact abs_sub_le _ _ _
    constructor
    · linarith
    · intro _ heq
      linarith

/-- What is rounded differs by a half at most, and by a half only from an even number. -/
lemma Fraction.roundEven_half {f : Fraction} (hd : 0 < f.den) :
    |(f.roundEven : ℚ) - f.value| ≤ 1 / 2 ∧
      (|(f.roundEven : ℚ) - f.value| = 1 / 2 → f.roundEven % 2 = 0) := by
  have hden : (0 : ℚ) < f.den := by exact_mod_cast hd
  have hvalue : f.value = (f.num / f.den : ℕ) + ((f.num % f.den : ℕ) : ℚ) / f.den := by
    have hsplit : (f.num : ℚ) = f.den * (f.num / f.den : ℕ) + (f.num % f.den : ℕ) := by
      exact_mod_cast (Nat.div_add_mod f.num f.den).symm
    rw [value, hsplit]
    field_simp
  have hr := Nat.mod_lt f.num hd
  rw [roundEven, hvalue]
  generalize f.num / f.den = q at *
  generalize f.num % f.den = r at *
  have hone : (r : ℚ) / f.den < 1 := (div_lt_one hden).mpr (by exact_mod_cast hr)
  have hpos : 0 ≤ (r : ℚ) / f.den := by positivity
  have hlow : 2 * r < f.den ↔ (r : ℚ) / f.den < 1 / 2 := by
    rw [div_lt_div_iff₀ hden two_pos, one_mul, mul_comm]
    exact_mod_cast Iff.rfl
  have hhigh : f.den < 2 * r ↔ 1 / 2 < (r : ℚ) / f.den := by
    rw [div_lt_div_iff₀ two_pos hden, one_mul, mul_comm (r : ℚ)]
    exact_mod_cast Iff.rfl
  generalize (r : ℚ) / f.den = t at *
  have hstrict : ∀ m : ℕ, |(m : ℚ) - (q + t)| < 1 / 2 → |(m : ℚ) - (q + t)| ≤ 1 / 2 ∧
      (|(m : ℚ) - (q + t)| = 1 / 2 → m % 2 = 0) :=
    fun m h => ⟨h.le, fun heq => absurd heq h.ne⟩
  split_ifs with h₁ h₂
  · have ht := hlow.mp h₁
    apply hstrict
    rw [abs_lt]
    constructor <;> linarith
  · have ht := hhigh.mp h₂
    apply hstrict
    push_cast
    rw [abs_lt]
    constructor <;> linarith
  · have ht : t = 1 / 2 :=
      le_antisymm (not_lt.mp fun h => h₂ (hhigh.mpr h)) (not_lt.mp fun h => h₁ (hlow.mpr h))
    have hmod : ((q % 2 : ℕ) : ℚ) ≤ 1 := by
      exact_mod_cast Nat.le_of_lt_succ (Nat.mod_lt q two_pos)
    have hmod' : (0 : ℚ) ≤ (q % 2 : ℕ) := Nat.cast_nonneg _
    refine ⟨?_, fun _ => by omega⟩
    rw [ht, Nat.cast_add, abs_le]
    constructor <;> linarith

/-! ### Ranks -/

namespace Precision

variable (p : Precision) {f : Fraction} {m k rank : ℕ} {q : ℚ}

/-- No rank of a set is closer to an amount, and if another one is as close, this one is even. -/
structure Closest (s : Set ℕ) (q : ℚ) (rank : ℕ) : Prop where
  le : ∀ r ∈ s, |(p.magnitude rank).value - q| ≤ |(p.magnitude r).value - q|
  even : ∀ r ∈ s, r ≠ rank →
    |(p.magnitude rank).value - q| = |(p.magnitude r).value - q| → rank % 2 = 0

/-- The magnitude of a mantissa after some doublings of the step. -/
lemma value_magnitude_add (hm : m ≤ 2 * p.run) (hk : k ≠ 0 → p.run ≤ m) :
    (p.magnitude (m + k * p.run)).value = m * 2 ^ (p.minExponent + k) := by
  have hrun := p.run_pos
  have hdiv : (m + k * p.run) / p.run = m / p.run + k := Nat.add_mul_div_right m k hrun
  rw [value_magnitude]
  rcases hm.lt_or_eq with hlt | rfl
  · have hdoublings : p.doublings (m + k * p.run) = k := by
      rw [doublings, hdiv]
      by_cases hm' : p.run ≤ m
      · rw [Nat.div_eq_of_lt_le (by omega) (by omega : m < (1 + 1) * p.run), Nat.add_sub_cancel_left]
      · have hk' : k = 0 := not_ne_iff.mp fun h => hm' (hk h)
        rw [Nat.div_eq_of_lt (not_le.mp hm'), hk']
    rw [mantissa, exponent, hdoublings, Nat.add_sub_cancel]
  · -- The mantissa carries over, so the step has doubled once more.
    have hdoublings : p.doublings (2 * p.run + k * p.run) = k + 1 := by
      rw [doublings, hdiv, Nat.mul_div_cancel _ hrun]
      omega
    have hmantissa : p.mantissa (2 * p.run + k * p.run) = p.run := by
      rw [mantissa, hdoublings, Nat.add_mul]
      omega
    rw [hmantissa, exponent, hdoublings]
    push_cast
    rw [← add_assoc, zpow_add_one₀ two_ne_zero]
    ring

/-- The magnitude grows from rank to rank. -/
lemma strictMono_magnitude : StrictMono fun rank => (p.magnitude rank).value := by
  apply strictMono_nat_of_lt_succ
  intro rank
  obtain ⟨hhigh, hlow⟩ := p.mantissa_bounds rank
  have hsucc : rank + 1 = p.mantissa rank + 1 + p.doublings rank * p.run := by
    have := p.mantissa_add rank
    omega
  have hnext := p.value_magnitude_add (m := p.mantissa rank + 1) (k := p.doublings rank) (by omega)
    fun h => (hlow h).trans (Nat.le_succ _)
  rw [← hsucc] at hnext
  rw [hnext, value_magnitude, exponent]
  gcongr
  exact Nat.lt_succ_self _

/-- A fraction that is counted in steps has no more bits than a mantissa, and no fewer once the step
has doubled. -/
lemma scaled_bounds {e : ℤ} (hn : f.num ≠ 0) (hd : 0 < f.den)
    (he : e = max (f.binade - p.fractionBits) p.minExponent) :
    f.value * 2 ^ (-e) < 2 * p.run ∧ (p.minExponent < e → p.run ≤ f.value * 2 ^ (-e)) := by
  have hpos := Fraction.value_pos hn hd
  have hrun : (p.run : ℚ) = 2 ^ (p.fractionBits : ℤ) := by
    rw [run, Nat.pow_eq, zpow_natCast]
    push_cast
    rfl
  have hbinade := Fraction.binade_eq_log hn hd
  have hlow : (2 : ℚ) ^ f.binade ≤ f.value := by
    rw [hbinade]
    exact_mod_cast Int.zpow_log_le_self Nat.one_lt_two hpos
  have hhigh : f.value < (2 : ℚ) ^ (f.binade + 1) := by
    rw [hbinade]
    exact_mod_cast Int.lt_zpow_succ_log_self Nat.one_lt_two f.value
  rw [hrun]
  constructor
  · calc f.value * 2 ^ (-e) < 2 ^ (f.binade + 1) * 2 ^ (-e) := by gcongr
      _ = 2 ^ (f.binade + 1 - e) := by rw [← zpow_add₀ two_ne_zero, sub_eq_add_neg]
      _ ≤ 2 ^ ((p.fractionBits : ℤ) + 1) := by
        gcongr
        · norm_num
        · omega
      _ = 2 * 2 ^ (p.fractionBits : ℤ) := by rw [zpow_add_one₀ two_ne_zero, mul_comm]
  · intro hlt
    calc (2 : ℚ) ^ (p.fractionBits : ℤ) = 2 ^ f.binade * 2 ^ (-e) := by
          rw [← zpow_add₀ two_ne_zero]
          congr 1
          omega
      _ ≤ f.value * 2 ^ (-e) := by gcongr

/-- In steps that have doubled, a rank with a step as large is a whole number, and one with a
smaller step lies below all full mantissas. -/
lemma magnitude_cases (k rank : ℕ) :
    (∃ n : ℕ, (p.magnitude rank).value = n * 2 ^ (p.minExponent + k)) ∨
      (k ≠ 0 ∧ (p.magnitude rank).value < p.run * 2 ^ (p.minExponent + k)) := by
  rw [value_magnitude, exponent]
  rcases le_or_gt k (p.doublings rank) with hle | hlt
  · obtain ⟨j, hj⟩ := Nat.exists_eq_add_of_le hle
    refine .inl ⟨p.mantissa rank * 2 ^ j, ?_⟩
    rw [hj]
    push_cast
    rw [← add_assoc, zpow_add₀ two_ne_zero _ (j : ℤ), zpow_natCast]
    ring
  · refine .inr ⟨Nat.ne_of_gt (Nat.zero_lt_of_lt hlt), ?_⟩
    have hmantissa : (p.mantissa rank : ℚ) < 2 * p.run := by
      exact_mod_cast (p.mantissa_bounds rank).1
    have hsmaller : p.minExponent + p.doublings rank + 1 ≤ p.minExponent + k := by omega
    calc (p.mantissa rank : ℚ) * 2 ^ (p.minExponent + p.doublings rank)
        < 2 * p.run * 2 ^ (p.minExponent + p.doublings rank) := by gcongr
      _ = p.run * 2 ^ (p.minExponent + p.doublings rank + 1) := by
        rw [zpow_add_one₀ two_ne_zero]
        ring
      _ ≤ p.run * 2 ^ (p.minExponent + k) := by
        gcongr
        norm_num

lemma rank_mod_two (hbits : 0 < p.fractionBits) (m k : ℕ) : (m + k * p.run) % 2 = m % 2 := by
  have hrun : p.run = 2 * 2 ^ (p.fractionBits - 1) := by
    rw [run, Nat.pow_eq, ← pow_succ']
    congr 1
    omega
  rw [hrun, Nat.mul_left_comm, Nat.add_mul_mod_self_left]

variable {p}

section Half

variable {x : ℚ} (hx : x < 2 * p.run) (hx' : k ≠ 0 → p.run ≤ x) (hhalf : |(m : ℚ) - x| ≤ 1 / 2)

include hx hx' hhalf

/-- What is within half a step of a mantissa is one, up to the carry. -/
lemma bounds_of_half : m ≤ 2 * p.run ∧ (k ≠ 0 → p.run ≤ m) := by
  obtain ⟨hlow, hhigh⟩ := abs_le.mp hhalf
  constructor
  · have hlt : (m : ℚ) < (2 * p.run + 1 : ℕ) := by
      push_cast
      linarith
    exact Nat.le_of_lt_succ (by exact_mod_cast hlt)
  · intro hk
    have hlt : (p.run : ℚ) < (m + 1 : ℕ) := by
      push_cast
      linarith [hx' hk]
    exact Nat.le_of_lt_succ (by exact_mod_cast hlt)

omit hx in
/-- What lies below all full mantissas is farther away. -/
lemma dist_lt_of_below {y : ℚ} (hk : k ≠ 0) (hy : y < p.run * 2 ^ (p.minExponent + k)) :
    |(m : ℚ) - x| * 2 ^ (p.minExponent + k) < |y - x * 2 ^ (p.minExponent + k)| := by
  have hstep : (0 : ℚ) ≤ 2 ^ (p.minExponent + k) := by positivity
  have hclose : |(m : ℚ) - x| ≤ x - p.run := by
    have hrun := (dist_le_of_half (n := p.run) hhalf).1
    rwa [abs_sub_comm (p.run : ℚ), abs_of_nonneg (sub_nonneg.mpr (hx' hk))] at hrun
  have hbelow := mul_le_mul_of_nonneg_right (hx' hk) hstep
  have hneg : y - x * 2 ^ (p.minExponent + k) < 0 := by linarith
  rw [abs_of_neg hneg]
  calc |(m : ℚ) - x| * 2 ^ (p.minExponent + k)
      ≤ (x - p.run) * 2 ^ (p.minExponent + k) := mul_le_mul_of_nonneg_right hclose hstep
    _ < -(y - x * 2 ^ (p.minExponent + k)) := by linarith

/-- A mantissa within half a step is closest among all ranks. -/
lemma closest_of_half (hbits : 0 < p.fractionBits)
    (heven : |(m : ℚ) - x| = 1 / 2 → m % 2 = 0) :
    p.Closest Set.univ (x * 2 ^ (p.minExponent + k)) (m + k * p.run) := by
  obtain ⟨hm, hm'⟩ := bounds_of_half hx hx' hhalf
  have hstep : (0 : ℚ) < 2 ^ (p.minExponent + k) := by positivity
  have hscale : ∀ y : ℚ, |y * 2 ^ (p.minExponent + k) - x * 2 ^ (p.minExponent + k)|
      = |y - x| * 2 ^ (p.minExponent + k) := by
    intro y
    rw [← sub_mul, abs_mul, abs_of_pos hstep]
  have hmagnitude := p.value_magnitude_add hm hm'
  constructor
  · intro r _
    rw [hmagnitude, hscale]
    rcases p.magnitude_cases k r with ⟨n, hr⟩ | ⟨hk, hr⟩
    · rw [hr, hscale]
      exact mul_le_mul_of_nonneg_right (dist_le_of_half hhalf).1 hstep.le
    · exact (dist_lt_of_below hx' hhalf hk hr).le
  · intro r _ hne heq
    rw [hmagnitude, hscale] at heq
    rcases p.magnitude_cases k r with ⟨n, hr⟩ | ⟨hk, hr⟩
    · rw [hr, hscale] at heq
      have hn : n ≠ m := by
        rintro rfl
        exact hne (p.strictMono_magnitude.injective (hr.trans hmagnitude.symm))
      rw [p.rank_mod_two hbits]
      apply heven
      exact (dist_le_of_half hhalf).2 hn (mul_right_cancel₀ hstep.ne' heq)
    · exact absurd heq (dist_lt_of_below hx' hhalf hk hr).ne

end Half

/-- The last rank is closest to all that lies beyond it. -/
lemma closest_last {last : ℕ} (h : (p.magnitude last).value ≤ q) :
    p.Closest (Set.Iic last) q last := by
  have hfar : ∀ r < last, |(p.magnitude last).value - q| < |(p.magnitude r).value - q| := by
    intro r hr
    have hgrow : (p.magnitude r).value < (p.magnitude last).value := p.strictMono_magnitude hr
    rw [abs_of_nonpos (by linarith), abs_of_neg (by linarith)]
    linarith
  constructor
  · intro r hr
    rcases (Set.mem_Iic.mp hr).lt_or_eq with hr | rfl
    · exact (hfar r hr).le
    · exact le_rfl
  · intro r hr hne heq
    have hr : r < last := lt_of_le_of_ne (Set.mem_Iic.mp hr) hne
    exact absurd heq (hfar r hr).ne

/-- What is closest among all ranks is so among the first of them, or else the last of these is. -/
lemma Closest.min (h : p.Closest Set.univ q rank) (last : ℕ) :
    p.Closest (Set.Iic last) q (min rank last) := by
  rcases le_or_gt rank last with hle | hlt
  · rw [min_eq_left hle]
    exact ⟨fun r _ => h.le r trivial, fun r _ => h.even r trivial⟩
  · rw [min_eq_right hlt.le]
    apply closest_last
    -- An amount below the last magnitude would be closer to it.
    by_contra hq
    have hq := not_le.mp hq
    have hgrow : (p.magnitude last).value < (p.magnitude rank).value := p.strictMono_magnitude hlt
    have hle := h.le last trivial
    rw [abs_of_pos (by linarith), abs_of_pos (by linarith)] at hle
    linarith

/-- There is one closest rank: of two that are equally close one is odd, or a closer one lies
between them. -/
lemma Closest.unique {last rank' : ℕ} (h : p.Closest (Set.Iic last) q rank)
    (h' : p.Closest (Set.Iic last) q rank') (hle : rank ≤ last) (hle' : rank' ≤ last) :
    rank = rank' := by
  wlog hlt : rank < rank' generalizing rank rank'
  · rcases (not_lt.mp hlt).lt_or_eq with hgt | heq
    · exact (this h' h hle' hle hgt).symm
    · exact heq.symm
  exfalso
  have heq : |(p.magnitude rank).value - q| = |(p.magnitude rank').value - q| :=
    le_antisymm (h.le rank' hle') (h'.le rank hle)
  have heven := h.even rank' hle' hlt.ne' heq
  have heven' := h'.even rank hle hlt.ne heq.symm
  have hlow : (p.magnitude rank).value < (p.magnitude (rank + 1)).value :=
    p.strictMono_magnitude (Nat.lt_succ_self rank)
  have hhigh : (p.magnitude (rank + 1)).value < (p.magnitude rank').value :=
    p.strictMono_magnitude (show rank + 1 < rank' by omega)
  have hmiddle : q - (p.magnitude rank).value = (p.magnitude rank').value - q := by
    rcases abs_eq_abs.mp heq with heq | heq <;> linarith
  have hnear : |(p.magnitude (rank + 1)).value - q| < |(p.magnitude rank').value - q| := by
    rw [abs_of_pos (by linarith : 0 < (p.magnitude rank').value - q), abs_lt]
    constructor <;> linarith
  exact absurd (h'.le (rank + 1) (Set.mem_Iic.mpr (by omega))) (not_le.mpr hnear)

/-- The rank of a fraction is the closest one to its value. -/
theorem closest_nearestRank (hbits : 0 < p.fractionBits) (hd : 0 < f.den) :
    p.Closest (Set.Iic p.ranks) f.value (p.nearestRank f) := by
  by_cases hn : f.num = 0
  · have hvalue : f.value = 0 := (Fraction.value_eq_zero_iff hd).mpr hn
    rw [nearestRank, if_pos hn, hvalue]
    refine ⟨fun r _ => ?_, fun _ _ _ _ => rfl⟩
    rw [p.value_magnitude_zero, sub_zero, abs_zero]
    exact abs_nonneg _
  · obtain ⟨e, he⟩ : ∃ e, e = max (f.binade - p.fractionBits) p.minExponent := ⟨_, rfl⟩
    obtain ⟨hhigh, hlow⟩ := p.scaled_bounds hn hd he
    have hk : e = p.minExponent + (e - p.minExponent).toNat := by omega
    have hvalue : (f.timesPower 2 (-e)).value = f.value * 2 ^ (-e) :=
      Fraction.value_timesPower two_pos f (-e)
    obtain ⟨hhalf, heven⟩ := Fraction.roundEven_half (Fraction.den_timesPower_pos two_pos hd (-e))
    rw [hvalue] at hhalf heven
    have hclosest := closest_of_half (k := (e - p.minExponent).toNat) hhigh
      (fun h => hlow (by omega)) hhalf hbits heven
    rw [← hk, mul_assoc, ← zpow_add₀ two_ne_zero, neg_add_cancel, zpow_zero, mul_one] at hclosest
    simp only [nearestRank, if_neg hn, ← he]
    exact hclosest.min p.ranks

end Precision

/-! ### Decimals -/

/-- The number has the sign, and its magnitude is closest to the amount. Infinity counts as the
power of two after the last finite magnitude. -/
structure Binary.IsNearest (x : Double) (negative : Bool) (q : ℚ) : Prop where
  sign : x.negative = negative
  closest : Precision.double.Closest (Set.Iic Precision.double.ranks) q x.rank

/-- There is one nearest number. -/
lemma Binary.IsNearest.unique {x y : Double} {negative : Bool} {q : ℚ}
    (hx : x.IsNearest negative q) (hy : y.IsNearest negative q) : x = y := by
  have hrank := hx.closest.unique hy.closest (Nat.le_of_lt_succ x.rank.isLt)
    (Nat.le_of_lt_succ y.rank.isLt)
  obtain ⟨negative, rank⟩ := x
  obtain ⟨negative', rank'⟩ := y
  rw [mk.injEq]
  exact ⟨hx.sign.trans hy.sign.symm, Fin.ext hrank⟩

namespace Precision

lemma value_magnitude_ranks : (double.magnitude double.ranks).value = 2 ^ 1024 := by
  have hvalue := double.value_magnitude_add (m := 2 ^ 52) (k := 2046)
    (by rw [run_double]; omega) (fun _ => by rw [run_double])
  have hcast : ((2 ^ 52 : ℕ) : ℚ) = 2 ^ (52 : ℤ) := by norm_num
  have hexponent : (52 : ℤ) + (-1074 + (2046 : ℕ)) = (1024 : ℕ) := by norm_num
  rw [run_double, minExponent_double, hcast, ← zpow_add₀ two_ne_zero, hexponent,
    zpow_natCast] at hvalue
  rw [ranks_double, show 2047 * 2 ^ 52 = 2 ^ 52 + 2046 * 2 ^ 52 by norm_num, hvalue]

/-- Amounts of less than half the smallest step are closest to zero. -/
lemma closest_zero {q : ℚ} (hq : 0 ≤ q) (h : 2 * q < 2 ^ (-1074 : ℤ)) :
    double.Closest (Set.Iic double.ranks) q 0 := by
  have hzero := double.value_magnitude_zero
  refine ⟨fun r _ => ?_, fun _ _ _ _ => rfl⟩
  rw [hzero, zero_sub, abs_neg, abs_of_nonneg hq]
  rcases Nat.eq_zero_or_pos r with rfl | hr
  · rw [hzero, zero_sub, abs_neg, abs_of_nonneg hq]
  · have hstep : (2 : ℚ) ^ (-1074 : ℤ) ≤ (double.magnitude r).value := by
      have hone := double.value_magnitude_add (m := 1) (k := 0) (by rw [run_double]; omega)
        fun h => absurd rfl h
      rw [Nat.zero_mul, Nat.cast_one, one_mul, minExponent_double, Int.natCast_zero,
        Int.add_zero] at hone
      rw [← hone]
      exact double.strictMono_magnitude.monotone hr
    rw [abs_of_nonneg (by linarith)]
    linarith

end Precision

namespace Decimal

variable {d : Decimal} {e : ℤ}

lemma value_lt_ten_zpow (h : d.units ≠ 0)
    (htop : (Fraction.digitCount d.units : ℤ) + d.exponent ≤ e) : d.value < 10 ^ e := by
  have hlog := Int.lt_zpow_succ_log_self (b := 10) (by decide) d.value
  rw [← top_eq_log h, Nat.cast_ofNat] at hlog
  exact hlog.trans_le (zpow_le_zpow_right₀ (by norm_num) htop)

lemma ten_zpow_le_value (h : d.units ≠ 0)
    (htop : e < (Fraction.digitCount d.units : ℤ) + d.exponent) : 10 ^ e ≤ d.value := by
  have hpos : 0 < d.value := by
    have hunits : (0 : ℚ) < d.units := by exact_mod_cast Nat.pos_of_ne_zero h
    rw [value]
    positivity
  have hlog := Int.zpow_log_le_self (b := 10) (by decide) hpos
  rw [Nat.cast_ofNat] at hlog
  rw [top_eq_log h] at htop
  exact (zpow_le_zpow_right₀ (by norm_num) (Int.le_of_lt_add_one htop)).trans hlog

/-- Decimals below the reach are closest to zero. -/
lemma two_mul_value_lt (h : d.units ≠ 0)
    (htop : (Fraction.digitCount d.units : ℤ) + d.exponent < -reach) :
    2 * d.value < 2 ^ (-1074 : ℤ) := by
  have hpower : ((10 : ℚ) ^ 400)⁻¹ ≤ (2 ^ 1075)⁻¹ :=
    inv_anti₀ (by positivity) (Precision.two_pow_le_ten_pow (by decide))
  calc 2 * d.value < 2 * 10 ^ (-400 : ℤ) := by
        gcongr
        exact value_lt_ten_zpow h htop.le
    _ ≤ 2 * 2 ^ (-1075 : ℤ) := by
      rw [zpow_neg, zpow_neg, zpow_ofNat, zpow_ofNat]
      gcongr
    _ = 2 ^ (-1074 : ℤ) := by
      rw [mul_comm, ← zpow_add_one₀ two_ne_zero]
      rfl

/-- A decimal is read as the number nearest to its value. -/
theorem isNearest_nearest (d : Decimal) (negative : Bool) :
    (d.nearest .double negative).IsNearest negative d.value := by
  rw [nearest]
  split
  · rename_i h
    refine ⟨rfl, ?_⟩
    show Precision.double.Closest _ _ 0
    by_cases hunits : d.units = 0
    · rw [value_eq_zero_iff.mpr hunits]
      apply Precision.closest_zero le_rfl
      rw [mul_zero]
      positivity
    · refine Precision.closest_zero ?_ (two_mul_value_lt hunits (h.resolve_left hunits))
      rw [value]
      positivity
  · rename_i h
    split
    · rename_i htop
      refine ⟨rfl, ?_⟩
      show Precision.double.Closest _ _ Precision.double.ranks
      apply Precision.closest_last
      rw [Precision.value_magnitude_ranks]
      calc (2 : ℚ) ^ 1024 ≤ 10 ^ 400 := Precision.two_pow_le_ten_pow (by decide)
        _ = 10 ^ (400 : ℤ) := (zpow_ofNat _ 400).symm
        _ ≤ d.value := ten_zpow_le_value (fun hunits => h (.inl hunits)) htop
    · refine ⟨rfl, ?_⟩
      show Precision.double.Closest _ _ (Precision.double.nearestRank d.toFraction)
      rw [← value_toFraction]
      exact Precision.closest_nearestRank (by decide) d.den_toFraction_pos

end Decimal

end Storyboard
