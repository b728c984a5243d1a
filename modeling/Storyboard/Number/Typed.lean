import Storyboard.Canvas
import Storyboard.Number.Numeral

/-!
# Numbers that people type

A field for a number takes everything that is a number: digits with a point among or around them
and an exponent after them, or infinity in letters, in either case. What is used of it is the
nearest coordinate.
-/

namespace Storyboard

open Text

namespace Numeral

/-- The exponent after a number, if there is one; nothing else may follow. -/
def exponent? : List Char → Option Int
  | [] => some 0
  | c :: s =>
    let (down, r) := spanSign s
    let (digits, rest) := spanDigits r
    if (c = 'e' ∨ c = 'E') ∧ digits ≠ [] ∧ rest = [] then
      some (if down then -(ofDigits digits : Int) else ofDigits digits)
    else none

/-- The nearest coordinate to the number that a text holds, with or without an exponent. Infinity
can be written in letters, and what is no number by name counts as zero. -/
def typed? (s : List Char) : Option Int :=
  let (negative, body) := spanSign (trim s)
  let letters := body.map Char.toLower
  let rounded (x : Double) := x.roundWithin minCoordinate maxCoordinate
  if letters = "nan".toList then some 0
  else if letters = "inf".toList ∨ letters = "infinity".toList then
    some (rounded (.infinity .double negative))
  else do
    let (d, rest) ← spanDecimal body
    let e ← exponent? rest
    return rounded (Decimal.nearest .double negative ⟨d.units, d.exponent + e⟩)

end Numeral

end Storyboard
