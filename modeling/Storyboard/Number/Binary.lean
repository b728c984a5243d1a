import Storyboard.Number.Fraction

/-!
# Binary numbers

Numbers with a fixed count of binary digits. A precision holds finitely many magnitudes; the
place of a magnitude in order of size is its *rank*. Rank `0` is zero, and the rank after the
last finite magnitude is infinity. From one rank to the next the magnitude grows by one step, and
the step doubles after each run of `2 ^ fractionBits` ranks, so that a mantissa which rounds up
to the next power of two carries over to the right rank by itself.
-/

namespace Storyboard

/-- How many bits the fraction and the exponent of a binary number take. -/
structure Precision where
  fractionBits : Nat
  exponentBits : Nat

namespace Precision

/-- Numbers of 32 bits. -/
def single : Precision := ⟨23, 8⟩

/-- Numbers of 64 bits. -/
def double : Precision := ⟨52, 11⟩

variable (p : Precision)

/-- The exponent of the smallest step. -/
def minExponent : Int :=
  2 - Nat.pow 2 (p.exponentBits - 1) - p.fractionBits

/-- The number of ranks after which the step doubles. -/
def run : Nat :=
  Nat.pow 2 p.fractionBits

/-- The number of finite magnitudes, which is also the rank of infinity. -/
def ranks : Nat :=
  (Nat.pow 2 p.exponentBits - 1) * p.run

/-- How often the step has doubled before a rank. -/
def doublings (rank : Nat) : Nat :=
  rank / p.run - 1

/-- The magnitude of a rank, in steps of `2 ^ exponent`. -/
def mantissa (rank : Nat) : Nat :=
  rank - p.doublings rank * p.run

/-- The exponent of the step at a rank. -/
def exponent (rank : Nat) : Int :=
  p.minExponent + p.doublings rank

/-- The magnitude of a rank. -/
def magnitude (rank : Nat) : Fraction :=
  (Fraction.ofNat (p.mantissa rank)).timesPower 2 (p.exponent rank)

/-- The rank of the magnitude nearest to a fraction; of two equally near the even one. What lies
beyond the last finite magnitude by half a step or more has the rank of infinity. -/
def nearestRank (f : Fraction) : Nat :=
  if f.num = 0 then 0
  else
    let e := max (f.binade - p.fractionBits) p.minExponent
    let m := (f.timesPower 2 (-e)).roundEven
    min (m + (e - p.minExponent).toNat * p.run) p.ranks

theorem nearestRank_le (f : Fraction) : p.nearestRank f ≤ p.ranks := by
  unfold nearestRank
  split
  · exact Nat.zero_le _
  · exact Nat.min_le_right _ _

end Precision

/-- A signed magnitude of a precision; zero has a sign too. -/
structure Binary (p : Precision) where
  negative : Bool
  rank : Fin (p.ranks + 1)
deriving DecidableEq

/-- Binary numbers of 64 bits. -/
abbrev Double := Binary .double

/-- Binary numbers of 32 bits. -/
abbrev Single := Binary .single

namespace Binary

variable {p : Precision}

/-- The number nearest to a fraction with a sign. -/
def nearest (p : Precision) (negative : Bool) (f : Fraction) : Binary p :=
  ⟨negative, p.nearestRank f, Nat.lt_succ_of_le (p.nearestRank_le f)⟩

/-- The number nearest to an integer. -/
def ofInt (p : Precision) (i : Int) : Binary p :=
  nearest p (i < 0) (.ofNat i.natAbs)

def infinity (p : Precision) (negative : Bool) : Binary p :=
  ⟨negative, p.ranks, Nat.lt_succ_self _⟩

def isFinite (x : Binary p) : Bool :=
  x.rank.val < p.ranks

/-- The magnitude of a finite number. -/
def magnitude (x : Binary p) : Fraction :=
  p.magnitude x.rank

/-- The product, rounded; a product with infinity is infinity. -/
def mul (x y : Binary p) : Binary p :=
  let negative := x.negative != y.negative
  if x.isFinite && y.isFinite then nearest p negative (x.magnitude.mul y.magnitude)
  else infinity p negative

/-! ### Integers near a number -/

/-- An integer cut off at the ends of an interval. -/
def clip (lo hi i : Int) : Int :=
  max lo (min i hi)

/-- The nearest integer, halves away from zero, cut off at the ends of an interval. -/
def roundWithin (lo hi : Int) (x : Binary p) : Int :=
  let n : Int := x.magnitude.roundUp
  clip lo hi (if x.negative then -n else n)

/-- The least integer that is not smaller, cut off at the ends of an interval. -/
def ceilWithin (lo hi : Int) (x : Binary p) : Int :=
  clip lo hi (if x.negative then -(x.magnitude.floor : Int) else x.magnitude.ceil)

end Binary

end Storyboard
