import Storyboard.Json.Read
import Storyboard.Text.Blank

/-!
# Colors

Opaque colors of three channels. Elements write a color as `#rrggbb`; the decorative colors of a
document are objects with one number for each channel.
-/

namespace Storyboard

open Text Json

structure Color where
  red : UInt8
  green : UInt8
  blue : UInt8
deriving DecidableEq, Repr

namespace Color

def black : Color := ⟨0, 0, 0⟩

def white : Color := ⟨255, 255, 255⟩

/-! ### Hexadecimal notation -/

/-- The channel of two hexadecimal digits. -/
def channel? (a b : Char) : Option UInt8 := do
  let a ← hexDigit? a
  let b ← hexDigit? b
  return UInt8.ofNat (16 * a + b)

/-- The color of three or six hexadecimal digits; each of three stands for two like it. -/
def ofDigits? : List Char → Option Color
  | [a, b, c] => do return ⟨← channel? a a, ← channel? b b, ← channel? c c⟩
  | [a, b, c, d, e, f] => do return ⟨← channel? a b, ← channel? c d, ← channel? e f⟩
  | _ => none

/-- The text without a number sign in front. -/
def dropSign : List Char → List Char
  | '#' :: s => s
  | s => s

/-- The color of a text such as `#6c5ce7` or `fff`, with blanks around it or not. -/
def ofHex? (s : String) : Option Color :=
  ofDigits? (dropSign (trim s.toList))

/-- The color as `#rrggbb`, in lower case. -/
def toHex (c : Color) : String :=
  .ofList ('#' :: (hexText 2 c.red.toNat ++ hexText 2 c.green.toNat ++ hexText 2 c.blue.toNat))

/-! ### Objects -/

inductive Channel
  | red
  | green
  | blue
deriving DecidableEq

/-- The channels as fields of a record. -/
def fields : Fields Channel Nat where
  all := [.red, .green, .blue]
  name
    | .red => "r"
    | .green => "g"
    | .blue => "b"
  read _ := .natBelow 256

/-- A color with all its channels. -/
def reader : Reader Color := fun room d => do
  let t ← fields.table room d
  match t.lookup .red, t.lookup .green, t.lookup .blue with
  | some r, some g, some b => return ⟨.ofNat r, .ofNat g, .ofNat b⟩
  | _, _, _ => throw (.unsuitable none)

/-- The color that a value describes. -/
def ofValue? (v : Value) : Option Color :=
  (reader nesting (.ofValue v)).toOption

def toValue (c : Color) : Value :=
  .object [("r", .int c.red.toNat), ("g", .int c.green.toNat), ("b", .int c.blue.toNat)]

end Color

end Storyboard
