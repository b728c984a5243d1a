/-!
# UTF-8

Text as bytes. Bytes that are no text are taken apart into characters and gaps: a gap is a
longest run of bytes that starts a character without completing it, or a single byte that starts
none.
-/

namespace Storyboard.Text.Utf8

/-- What the first byte of a character holds, and the ranges of the bytes that have to follow. -/
def lead (b : Nat) : Option (Nat × List (Nat × Nat)) :=
  let tail := (0x80, 0xBF)
  if b < 0x80 then some (b, [])
  else if b < 0xC2 then none
  else if b < 0xE0 then some (b - 0xC0, [tail])
  else if b = 0xE0 then some (0, [(0xA0, 0xBF), tail])
  else if b = 0xED then some (0xD, [(0x80, 0x9F), tail])
  else if b < 0xF0 then some (b - 0xE0, [tail, tail])
  else if b = 0xF0 then some (0, [(0x90, 0xBF), tail, tail])
  else if b < 0xF4 then some (b - 0xF0, [tail, tail, tail])
  else if b = 0xF4 then some (4, [(0x80, 0x8F), tail, tail])
  else none

/-- The number of a character whose other bytes have to lie in some ranges, and what follows. -/
def follow (code : Nat) : List (Nat × Nat) → List UInt8 → Option Nat × List UInt8
  | [], bs => (some code, bs)
  | _ :: _, [] => (none, [])
  | r :: rs, b :: bs =>
    if r.1 ≤ b.toNat ∧ b.toNat ≤ r.2 then follow (code * 64 + b.toNat % 64) rs bs
    else (none, b :: bs)

theorem follow_length_le (code : Nat) (rs : List (Nat × Nat)) (bs : List UInt8) :
    (follow code rs bs).2.length ≤ bs.length := by
  fun_induction follow code rs bs with
  | case1 => exact Nat.le_refl _
  | case2 => exact Nat.le_refl _
  | case3 _ _ _ _ _ _ ih => exact Nat.le_succ_of_le ih
  | case4 => exact Nat.le_refl _

/-- The characters of some bytes, with nothing for each gap. -/
def decode : List UInt8 → List (Option Char)
  | [] => []
  | b :: bs =>
    match lead b.toNat with
    | none => none :: decode bs
    | some (code, rs) =>
      have : (follow code rs bs).2.length ≤ bs.length := follow_length_le code rs bs
      (follow code rs bs).1.map Char.ofNat :: decode (follow code rs bs).2
termination_by bs => bs.length

/-- The text of some bytes, if there are no gaps. -/
def text? (bs : List UInt8) : Option String :=
  ((decode bs).mapM id).map String.ofList

/-- The text of some bytes with a replacement character for each gap. -/
def lossyText (bs : List UInt8) : String :=
  .ofList ((decode bs).map (·.getD '\ufffd'))

/-- The bytes of a text. -/
def encode (s : String) : List UInt8 :=
  s.toUTF8.toList

end Storyboard.Text.Utf8
