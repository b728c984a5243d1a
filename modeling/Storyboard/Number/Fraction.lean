/-!
# Fractions

Nonnegative fractions of natural numbers, kept as they come, and the ways of rounding them to a
whole number. Scaling by a power with any integer exponent stays exact.
-/

namespace Storyboard

/-- A numerator over a denominator; a denominator in use is positive. -/
structure Fraction where
  num : Nat
  den : Nat
deriving DecidableEq, Repr

namespace Fraction

/-- The whole number `n`. -/
def ofNat (n : Nat) : Fraction :=
  ⟨n, 1⟩

/-- The fraction times the power `b ^ e`. -/
def timesPower (f : Fraction) (b : Nat) (e : Int) : Fraction :=
  if 0 ≤ e then ⟨f.num * Nat.pow b e.toNat, f.den⟩
  else ⟨f.num, f.den * Nat.pow b (-e).toNat⟩

def mul (f g : Fraction) : Fraction :=
  ⟨f.num * g.num, f.den * g.den⟩

/-! ### Whole numbers near a fraction -/

/-- The largest whole number that is not larger. -/
def floor (f : Fraction) : Nat :=
  f.num / f.den

/-- The least whole number that is not smaller. -/
def ceil (f : Fraction) : Nat :=
  (f.num + f.den - 1) / f.den

/-- The nearest whole number; a half goes to the even one. -/
def roundEven (f : Fraction) : Nat :=
  let q := f.num / f.den
  let r := f.num % f.den
  if 2 * r < f.den then q
  else if f.den < 2 * r then q + 1
  else q + q % 2

/-- The nearest whole number; a half goes up. -/
def roundUp (f : Fraction) : Nat :=
  (2 * f.num + f.den) / (2 * f.den)

/-! ### Size -/

/-- The exponent `e` of the binade `2 ^ e ≤ f < 2 ^ (e + 1)` of a positive fraction. -/
def binade (f : Fraction) : Int :=
  let e : Int := f.num.log2 - f.den.log2
  if 1 ≤ (f.timesPower 2 (-e)).floor then e else e - 1

/-- How many decimal digits a whole number has. -/
def digitCount (n : Nat) : Nat :=
  (Nat.toDigits 10 n).length

/-- The number `k` of the decade `10 ^ (k - 1) ≤ f < 10 ^ k` of a fraction above `10 ^ (-400)`. -/
def decade (f : Fraction) : Int :=
  digitCount (f.timesPower 10 400).floor - 400

end Fraction

end Storyboard
