import Storyboard.Number.Decimal
import Storyboard.Text.Blank
import Storyboard.Text.Digits

/-!
# Numerals

Numbers as they stand in text: read from a run of digits with at most one point, written in full
or with a power of ten.
-/

namespace Storyboard

open Text

namespace Numeral

/-! ### Reading -/

/-- A minus sign in front, and what follows it. -/
def spanMinus : List Char → Bool × List Char
  | '-' :: s => (true, s)
  | s => (false, s)

/-- Digits with at most one point among or around them, and what follows. There has to be a
digit. -/
def spanDecimal (s : List Char) : Option (Decimal × List Char) :=
  match spanDigits s with
  | (whole, '.' :: r) =>
    let (places, rest) := spanDigits r
    if whole = [] ∧ places = [] then none
    else some (⟨ofDigits (whole ++ places), -(places.length : Int)⟩, rest)
  | (whole, rest) => if whole = [] then none else some (⟨ofDigits whole, 0⟩, rest)

/-- Whether a character can belong to a numeral after its sign. -/
def isNumeric (c : Char) : Bool :=
  c.isDigit || c == '.'

/-- The number at the start of a text such as `120px`. Everything up to the first character that
is no digit or point counts, apart from a minus sign in front, and has to be one number. -/
def lenient (s : List Char) : Option Double :=
  let (negative, body) := spanMinus (trim s)
  match spanDecimal (body.takeWhile isNumeric) with
  | some (d, []) => some (d.nearest .double negative)
  | _ => none

/-! ### Writing -/

/-- A decimal in full. With `fixed` a whole number has a zero after the point. -/
def plainText (fixed : Bool) (d : Decimal) : List Char :=
  let digits := digitsOf d.units
  match d.exponent with
  | .ofNat k => digits ++ List.replicate k '0' ++ (if fixed then ['.', '0'] else [])
  | .negSucc k =>
    let whole := digits.length - (k + 1)
    if whole = 0 then '0' :: '.' :: (List.replicate (k + 1 - digits.length) '0' ++ digits)
    else digits.take whole ++ '.' :: digits.drop whole

/-- The exponent of the first digit of a decimal. -/
def leadingExponent (d : Decimal) : Int :=
  d.exponent + (digitsOf d.units).length - 1

/-- A decimal with one digit before the point and a signed power of ten. -/
def scientificText (d : Decimal) : List Char :=
  let e := leadingExponent d
  let mantissa : List Char :=
    match digitsOf d.units with
    | [] => []
    | [c] => [c]
    | c :: cs => c :: '.' :: cs
  mantissa ++ 'e' :: (if e < 0 then '-' else '+') :: digitsOf e.natAbs

/-- A sign in front of a text. -/
def signed (negative : Bool) (s : List Char) : List Char :=
  if negative then '-' :: s else s

end Numeral

/-- A binary number in full, without an exponent: the shortest digits, and of two equally near
decimals the larger one. -/
def Binary.plainText {p : Precision} (x : Binary p) : String :=
  .ofList <| Numeral.signed x.negative <|
    if x.isFinite then Numeral.plainText false (x.shortest .up) else ['i', 'n', 'f']

end Storyboard
