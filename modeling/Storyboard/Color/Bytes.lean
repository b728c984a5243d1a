import Storyboard.Color

/-!
# Colors of bytes

The hexadecimal notation once more, as it is read from the bytes of a text. How many bytes there are
tells the short form from the long one, each byte is taken for a digit by its place, and channels
are put together in eight bits.
-/

namespace Storyboard.Color

open Text

/-- The value of a byte that is a hexadecimal digit, in either case. -/
def byteDigit? (b : UInt8) : Option UInt8 :=
  if 0x30 ≤ b ∧ b ≤ 0x39 then some (b - 0x30)
  else if 0x61 ≤ b ∧ b ≤ 0x66 then some (b - 0x61 + 10)
  else if 0x41 ≤ b ∧ b ≤ 0x46 then some (b - 0x41 + 10)
  else none

/-- The color of three or six bytes. -/
def ofBytes? : List UInt8 → Option Color
  | [r, g, b] => do
    let r ← byteDigit? r
    let g ← byteDigit? g
    let b ← byteDigit? b
    return ⟨r * 17, g * 17, b * 17⟩
  | [r₁, r₂, g₁, g₂, b₁, b₂] => do
    let r := (← byteDigit? r₁) <<< 4 ||| (← byteDigit? r₂)
    let g := (← byteDigit? g₁) <<< 4 ||| (← byteDigit? g₂)
    let b := (← byteDigit? b₁) <<< 4 ||| (← byteDigit? b₂)
    return ⟨r, g, b⟩
  | _ => none

/-- The color of the bytes of a text, without blanks around it and a number sign in front. -/
def ofHexBytes? (s : String) : Option Color :=
  ofBytes? ((dropSign (trim s.toList)).flatMap String.utf8EncodeChar)

end Storyboard.Color
