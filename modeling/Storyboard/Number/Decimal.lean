import Storyboard.Number.Binary

/-!
# Decimals and their nearest binary numbers

A decimal is a whole number of units `10 ^ exponent`. Reading a decimal gives the nearest binary
number. Writing a binary number chooses the shortest decimal that reads back to it: the fewest
digits, and of those the decimal nearest to the number. When two are equally near, the format
that is written says which one it takes.
-/

namespace Storyboard

/-- The number `units * 10 ^ exponent`. -/
structure Decimal where
  units : Nat
  exponent : Int
deriving DecidableEq, Repr

namespace Decimal

def toFraction (d : Decimal) : Fraction :=
  (Fraction.ofNat d.units).timesPower 10 d.exponent

/-- Decimals of at least `10 ^ 400` are beyond every precision in use, and decimals below
`10 ^ (-400)` are nearest to zero. -/
def reach : Int := 400

/-- The binary number nearest to a decimal with a sign. -/
def nearest (p : Precision) (negative : Bool) (d : Decimal) : Binary p :=
  let top := Fraction.digitCount d.units + d.exponent
  if d.units = 0 ∨ top < -reach then .nearest p negative (.ofNat 0)
  else if reach < top then .infinity p negative
  else .nearest p negative d.toFraction

end Decimal

/-- Which of two equally near decimals is written. -/
inductive Tie
  /-- The one with the even last digit. -/
  | even
  /-- The larger one. -/
  | up
deriving DecidableEq

namespace Binary

variable {p : Precision}

/-- The decimals next to the number among those with unit `10 ^ e`. -/
def neighbours (x : Binary p) (e : Int) : List Nat :=
  let f := x.magnitude.timesPower 10 (-e)
  if f.num % f.den = 0 then [f.floor] else [f.floor, f.floor + 1]

/-- Whether a decimal is nearer to this number than to any other. -/
def readsBack (x : Binary p) (d : Decimal) : Bool :=
  d.nearest p x.negative = x

/-- The neighbour with unit `10 ^ e` that stands for the number, if one of them does. -/
def onGrid (tie : Tie) (x : Binary p) (e : Int) : Option Nat :=
  match (x.neighbours e).filter fun u => x.readsBack ⟨u, e⟩ with
  | [] => none
  | [u] => some u
  | u :: v :: _ =>
    let f := x.magnitude.timesPower 10 (-e)
    let low := 2 * f.num < (u + v) * f.den
    let half := 2 * f.num = (u + v) * f.den
    some (if low ∨ (half ∧ tie = .even ∧ u % 2 = 0) then u else v)

/-- The decimal with `count` digits that stands for a number of a decade, if there is one. A
neighbour that has a digit more is a power of ten. -/
def withDigits (tie : Tie) (x : Binary p) (decade : Int) (count : Nat) : Option Decimal :=
  let e := decade - count
  (x.onGrid tie e).map fun u => if u = Nat.pow 10 count then ⟨1, e + count⟩ else ⟨u, e⟩

/-- The number itself as a decimal, which has finitely many digits. -/
def exactDecimal (x : Binary p) : Decimal :=
  let e := p.exponent x.rank
  if 0 ≤ e then ⟨p.mantissa x.rank * Nat.pow 2 e.toNat, 0⟩
  else ⟨p.mantissa x.rank * Nat.pow 5 (-e).toNat, e⟩

/-- The shortest decimal that reads back to a finite number. -/
def shortest (tie : Tie) (x : Binary p) : Decimal :=
  if x.rank.val = 0 then ⟨0, 0⟩
  else
    let decade := x.magnitude.decade
    ((List.range' 1 17).findSome? (x.withDigits tie decade)).getD x.exactDecimal

end Binary

end Storyboard
