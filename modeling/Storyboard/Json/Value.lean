import Storyboard.Number.Numeral

/-!
# JSON values and their text

A value keeps the members of an object in order. Two layouts write it: in one line without
blanks, or over several lines with two blanks more for each level. Both go through one function,
so they differ in nothing but blanks.
-/

namespace Storyboard.Json

open Text

/-- Numbers of a JSON text: integers that fit 64 bits, and binary numbers otherwise. -/
inductive Number
  | int (i : Int)
  | float (x : Double)
deriving DecidableEq

inductive Value
  | null
  | bool (b : Bool)
  | number (n : Number)
  | string (s : String)
  | array (items : List Value)
  | object (members : List (String × Value))

namespace Value

/-- The whole number `i`. -/
def int (i : Int) : Value :=
  .number (.int i)

end Value

/-! ### Numbers -/

/-- The leading exponents of the numbers that are written in full. -/
def writtenInFull (e : Int) : Bool :=
  -5 ≤ e && e ≤ 15

/-- A decimal as JSON text. -/
def decimalText (d : Decimal) : List Char :=
  if writtenInFull (Numeral.leadingExponent d) then Numeral.plainText true d
  else Numeral.scientificText d

/-- A number as JSON text. Infinity, which JSON cannot write, is null. -/
def Number.chars : Number → List Char
  | .int i => integerText i
  | .float x =>
    if x.isFinite then Numeral.signed x.negative (decimalText (x.shortest .even))
    else ['n', 'u', 'l', 'l']

/-! ### Strings -/

/-- How a string writes one character. -/
def escapedChar (c : Char) : List Char :=
  match c with
  | '"' => ['\\', '"']
  | '\\' => ['\\', '\\']
  | '\n' => ['\\', 'n']
  | '\r' => ['\\', 'r']
  | '\t' => ['\\', 't']
  | '\x08' => ['\\', 'b']
  | '\x0c' => ['\\', 'f']
  | c => if c.toNat < 0x20 then '\\' :: 'u' :: hexText 4 c.toNat else [c]

/-- A string with its quotes. -/
def stringChars (s : String) : List Char :=
  '"' :: s.toList.flatMap escapedChar ++ ['"']

/-! ### Values -/

/-- The layouts of a value. -/
inductive Layout
  /-- Everything in one line. -/
  | compact
  /-- Every item and member on a line of its own. -/
  | pretty
deriving DecidableEq

/-- What stands before an item at a level. -/
def Layout.line : Layout → Nat → List Char
  | .compact, _ => []
  | .pretty, level => '\n' :: List.replicate (2 * level) ' '

/-- What stands between a key and its value. -/
def Layout.colon : Layout → List Char
  | .compact => [':']
  | .pretty => [':', ' ']

mutual

/-- The text of a value that stands at a level. -/
def Value.chars (l : Layout) (level : Nat) : Value → List Char
  | .null => ['n', 'u', 'l', 'l']
  | .bool true => ['t', 'r', 'u', 'e']
  | .bool false => ['f', 'a', 'l', 's', 'e']
  | .number n => n.chars
  | .string s => stringChars s
  | .array [] => ['[', ']']
  | .array (v :: vs) =>
    '[' :: l.line (level + 1) ++ v.chars l (level + 1) ++ itemChars l (level + 1) vs ++
      l.line level ++ [']']
  | .object [] => ['\x7b', '\x7d']
  | .object ((k, v) :: ms) =>
    '\x7b' :: l.line (level + 1) ++ stringChars k ++ l.colon ++ v.chars l (level + 1) ++
      memberChars l (level + 1) ms ++ l.line level ++ ['\x7d']

/-- The items after the first one. -/
def itemChars (l : Layout) (level : Nat) : List Value → List Char
  | [] => []
  | v :: vs => ',' :: l.line level ++ v.chars l level ++ itemChars l level vs

/-- The members after the first one. -/
def memberChars (l : Layout) (level : Nat) : List (String × Value) → List Char
  | [] => []
  | (k, v) :: ms =>
    ',' :: l.line level ++ stringChars k ++ l.colon ++ v.chars l level ++ memberChars l level ms

end

/-- The value in one line. -/
def Value.compact (v : Value) : String :=
  .ofList (v.chars .compact 0)

/-- The value over several lines. -/
def Value.pretty (v : Value) : String :=
  .ofList (v.chars .pretty 0)

/-! ### Scalars as text -/

/-- The text of a string, number or truth value; nothing for other values. -/
def Value.scalarText? : Value → Option String
  | .string s => some s
  | .number n => some (.ofList n.chars)
  | .bool b => some (if b then "true" else "false")
  | .null | .array _ | .object _ => none

/-- Whether the value is null. -/
def Value.isNull : Value → Bool
  | .null => true
  | _ => false

end Storyboard.Json
