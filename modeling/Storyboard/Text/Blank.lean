/-!
# Blanks

Numbers, colours and sizes are read from fields that people fill in, so blanks around them do
not count. Blank are the characters with the Unicode property White_Space.
-/

namespace Storyboard.Text

/-- Whether a character has the property White_Space. -/
def isBlank (c : Char) : Bool :=
  let n := c.toNat
  (9 ≤ n && n ≤ 13) || n == 0x20 || n == 0x85 || n == 0xA0 || n == 0x1680 ||
    (0x2000 ≤ n && n ≤ 0x200A) || n == 0x2028 || n == 0x2029 || n == 0x202F || n == 0x205F ||
    n == 0x3000

/-- The text without the blanks at its end. -/
def trimEnd (s : List Char) : List Char :=
  (s.reverse.dropWhile isBlank).reverse

/-- The text without the blanks at either end. -/
def trim (s : List Char) : List Char :=
  trimEnd (s.dropWhile isBlank)

/-! ### Texts without blanks -/

theorem dropWhile_isBlank_of_none {s : List Char} (h : ∀ c ∈ s, isBlank c = false) :
    s.dropWhile isBlank = s := by
  cases s with
  | nil => rfl
  | cons c cs => simp [h c]

theorem trim_of_none {s : List Char} (h : ∀ c ∈ s, isBlank c = false) : trim s = s := by
  have h' : ∀ c ∈ s.reverse, isBlank c = false := by simpa using h
  simp [trim, trimEnd, dropWhile_isBlank_of_none h, dropWhile_isBlank_of_none h']

end Storyboard.Text
