import Storyboard.Color.Bytes
import Storyboard.Proofs.Color

/-!
# The hexadecimal notation

Which text is which color: one with three or six digits, behind a number sign or not, where a digit
of the short form stands for two. The color writes these digits in lower case, so its own text is the
normal form of all texts of it. Texts are read by characters, but one that is read byte by byte gives
the same, as the bytes of other characters are no digits.
-/

namespace Storyboard

open Text

namespace Color

/-! ### Digits -/

/-- All digits of hexadecimal notation. -/
def digits : List Char :=
  "0123456789abcdefABCDEF".toList

/-- The value of a digit: its place among the sixteen in lower case. -/
def digit (c : Char) : Nat :=
  "0123456789abcdef".toList.idxOf c.toLower

/-- The six digits for which three stand, each for two like it, and any others for themselves. -/
def sixDigits : List Char → List Char
  | [r, g, b] => [r, r, g, g, b, b]
  | s => s

/-- The six digits are those of the channels, two for each. -/
def HasDigits (c : Color) : List Char → Prop
  | [r₁, r₂, g₁, g₂, b₁, b₂] =>
    c.red.toNat = 16 * digit r₁ + digit r₂ ∧ c.green.toNat = 16 * digit g₁ + digit g₂ ∧
      c.blue.toNat = 16 * digit b₁ + digit b₂
  | _ => False

variable {a b : Char} {s : List Char} {c : Color}

/-- What a digit stands for, as a character and as a byte. -/
lemma read_digit : ∀ a ∈ digits, a.toNat < 128 ∧ hexDigit? a = some (digit a) ∧
    byteDigit? (.ofNat a.toNat) = some (.ofNat (digit a)) := by
  have hall : digits.all fun a => a.toNat < 128 ∧ hexDigit? a = some (digit a) ∧
      byteDigit? (.ofNat a.toNat) = some (.ofNat (digit a)) := by
    decide +kernel
  simpa only [List.all_eq_true, decide_eq_true_eq] using hall

lemma isHexDigit_iff_mem : IsHexDigit a ↔ a ∈ digits := by
  constructor
  · intro h
    have hascii : ∀ n < 128, IsHexDigit (.ofNat n) → Char.ofNat n ∈ digits := by decide +kernel
    have hlt : a.toNat < 128 := by
      rcases h with ⟨-, h⟩ | ⟨-, h⟩ | ⟨-, h⟩
      · exact Nat.lt_of_le_of_lt h (by decide)
      · exact Nat.lt_of_le_of_lt h (by decide)
      · exact Nat.lt_of_le_of_lt h (by decide)
    rw [← Char.ofNat_toNat a] at h ⊢
    exact hascii a.toNat hlt h
  · intro h
    exact isSome_hexDigit?_iff.mp (Option.isSome_of_eq_some (read_digit a h).2.1)

/-- What two digits stand for: shifted and put together or multiplied, in eight bits or not. -/
lemma join_digits : ∀ a ∈ digits, ∀ b ∈ digits, 16 * digit a + digit b < 256 ∧
    UInt8.ofNat (digit a) <<< 4 ||| .ofNat (digit b) = .ofNat (16 * digit a + digit b) ∧
    hexText 2 (16 * digit a + digit b) = [a.toLower, b.toLower] := by
  have hall : digits.all fun a => digits.all fun b => 16 * digit a + digit b < 256 ∧
      UInt8.ofNat (digit a) <<< 4 ||| .ofNat (digit b) = .ofNat (16 * digit a + digit b) ∧
      hexText 2 (16 * digit a + digit b) = [a.toLower, b.toLower] := by
    decide +kernel
  simpa only [List.all_eq_true, decide_eq_true_eq] using hall

lemma double_digit (a : Char) :
    UInt8.ofNat (digit a) * 17 = .ofNat (16 * digit a + digit a) := by
  rw [show (17 : UInt8) = .ofNat 17 from rfl, ← UInt8.ofNat_mul]
  congr 1
  omega

/-! ### Colors of digits -/

lemma channel?_of_digits (ha : a ∈ digits) (hb : b ∈ digits) :
    channel? a b = some (.ofNat (16 * digit a + digit b)) := by
  obtain ⟨-, ha, -⟩ := read_digit a ha
  obtain ⟨-, hb, -⟩ := read_digit b hb
  simp only [channel?, ha, hb]
  rfl

lemma channel?_eq_some_iff {n : UInt8} :
    channel? a b = some n ↔ IsHexDigit a ∧ IsHexDigit b ∧ n.toNat = 16 * digit a + digit b := by
  constructor
  · intro h
    obtain ⟨ha, hb⟩ := isSome_channel?_iff.mp (Option.isSome_of_eq_some h)
    refine ⟨ha, hb, ?_⟩
    rw [isHexDigit_iff_mem] at ha hb
    rw [channel?_of_digits ha hb, Option.some.injEq] at h
    rw [← h, UInt8.toNat_ofNat', Nat.mod_eq_of_lt (join_digits a ha b hb).1]
  · rintro ⟨ha, hb, hn⟩
    rw [isHexDigit_iff_mem] at ha hb
    rw [channel?_of_digits ha hb, ← hn, UInt8.ofNat_toNat]

lemma color_eq_some_iff {r g b : Option UInt8} :
    (do return (⟨← r, ← g, ← b⟩ : Color) : Option Color) = some c ↔
      r = some c.red ∧ g = some c.green ∧ b = some c.blue := by
  obtain ⟨red, green, blue⟩ := c
  cases r <;> cases g <;> cases b <;> simp

lemma ofDigits?_eq_some_iff : ofDigits? s = some c ↔
    (s.length = 3 ∨ s.length = 6) ∧ (∀ a ∈ s, IsHexDigit a) ∧ c.HasDigits (sixDigits s) := by
  fun_cases ofDigits? s with
  | case1 r g b =>
    rw [color_eq_some_iff, channel?_eq_some_iff, channel?_eq_some_iff, channel?_eq_some_iff]
    simp only [List.forall_mem_cons, sixDigits, HasDigits]
    simp
    tauto
  | case2 r₁ r₂ g₁ g₂ b₁ b₂ =>
    rw [color_eq_some_iff, channel?_eq_some_iff, channel?_eq_some_iff, channel?_eq_some_iff]
    simp only [List.forall_mem_cons, sixDigits, HasDigits]
    simp
    tauto
  | case3 _ hthree hsix =>
    refine iff_of_false (by simp) ?_
    rintro ⟨-, -, h⟩
    unfold sixDigits at h
    split at h
    · exact hthree _ _ _ rfl
    · unfold HasDigits at h
      split at h
      · exact hsix _ _ _ _ _ _ rfl
      · exact h

/-! ### Bytes of characters -/

lemma utf8EncodeChar_of_lt {a : Char} (ha : a.toNat < 128) :
    String.utf8EncodeChar a = [.ofNat a.toNat] := by
  have hval : a.val.toNat ≤ 127 := Nat.le_of_lt_succ ha
  simp only [String.utf8EncodeChar, hval, if_true]
  rfl

/-- The first byte of a character outside of ASCII is outside of it too. -/
lemma head_utf8EncodeChar {a : Char} (ha : 128 ≤ a.toNat) :
    ∃ b ∈ String.utf8EncodeChar a, 128 ≤ b.toNat := by
  have hval : ¬ a.val.toNat ≤ 127 := Nat.not_le_of_lt ha
  simp only [String.utf8EncodeChar, hval, if_false]
  split
  · refine ⟨_, List.mem_cons_self, ?_⟩
    rw [UInt8.toNat_ofNat']
    omega
  · split
    · refine ⟨_, List.mem_cons_self, ?_⟩
      rw [UInt8.toNat_ofNat']
      omega
    · refine ⟨_, List.mem_cons_self, ?_⟩
      rw [UInt8.toNat_ofNat']
      omega

lemma byteDigit?_of_notMem (ha : a ∉ digits) (hlt : a.toNat < 128) :
    byteDigit? (.ofNat a.toNat) = none := by
  have hascii : ∀ n < 128, Char.ofNat n ∉ digits → byteDigit? (.ofNat n) = none := by
    decide +kernel
  rw [← Char.ofNat_toNat a] at ha
  exact hascii a.toNat hlt ha

lemma byteDigit?_of_le {b : UInt8} (hb : 128 ≤ b.toNat) : byteDigit? b = none := by
  have hother : ∀ n < 256, 128 ≤ n → byteDigit? (.ofNat n) = none := by decide +kernel
  rw [← UInt8.ofNat_toNat (x := b)]
  exact hother b.toNat b.toNat_lt hb

/-- A character that is no digit has a byte that is none. -/
lemma exists_byteDigit?_eq_none (ha : a ∉ digits) :
    ∃ b ∈ String.utf8EncodeChar a, byteDigit? b = none := by
  by_cases hlt : a.toNat < 128
  · refine ⟨.ofNat a.toNat, ?_, byteDigit?_of_notMem ha hlt⟩
    rw [utf8EncodeChar_of_lt hlt]
    exact List.mem_singleton.mpr rfl
  · obtain ⟨b, hb, hle⟩ := head_utf8EncodeChar (Nat.le_of_not_lt hlt)
    exact ⟨b, hb, byteDigit?_of_le hle⟩

lemma ofBytes?_eq_none {bytes : List UInt8} {b : UInt8} (hb : b ∈ bytes)
    (h : byteDigit? b = none) : ofBytes? bytes = none := by
  fun_cases ofBytes? bytes with
  | case1 x y z =>
    simp only [List.mem_cons, List.not_mem_nil, or_false] at hb
    rcases hb with rfl | rfl | rfl <;> simp [h]
  | case2 u v w x y z =>
    simp only [List.mem_cons, List.not_mem_nil, or_false] at hb
    rcases hb with rfl | rfl | rfl | rfl | rfl | rfl <;> simp [h]
  | case3 => rfl

lemma ofBytes?_of_length {bytes : List UInt8} (hthree : bytes.length ≠ 3)
    (hsix : bytes.length ≠ 6) : ofBytes? bytes = none := by
  fun_cases ofBytes? bytes with
  | case1 => exact absurd rfl hthree
  | case2 => exact absurd rfl hsix
  | case3 => rfl

/-- Digits are read byte by byte as they are character by character. -/
lemma ofBytes?_flatMap (s : List Char) :
    ofBytes? (s.flatMap String.utf8EncodeChar) = ofDigits? s := by
  by_cases hall : ∀ a ∈ s, a ∈ digits
  · have hbytes : s.flatMap String.utf8EncodeChar = s.map fun a => .ofNat a.toNat := by
      rw [List.map_eq_flatMap]
      exact List.flatMap_congr fun a ha => utf8EncodeChar_of_lt (read_digit a (hall a ha)).1
    rw [hbytes]
    fun_cases ofDigits? s with
    | case1 r g b =>
      simp only [List.forall_mem_cons] at hall
      obtain ⟨hr, hg, hb, -⟩ := hall
      simp only [List.map, ofBytes?, (read_digit _ hr).2.2, (read_digit _ hg).2.2,
        (read_digit _ hb).2.2, channel?_of_digits hr hr, channel?_of_digits hg hg,
        channel?_of_digits hb hb, bind, Option.bind, double_digit]
    | case2 r₁ r₂ g₁ g₂ b₁ b₂ =>
      simp only [List.forall_mem_cons] at hall
      obtain ⟨hr₁, hr₂, hg₁, hg₂, hb₁, hb₂, -⟩ := hall
      simp only [List.map, ofBytes?, (read_digit _ hr₁).2.2, (read_digit _ hr₂).2.2,
        (read_digit _ hg₁).2.2, (read_digit _ hg₂).2.2, (read_digit _ hb₁).2.2,
        (read_digit _ hb₂).2.2, channel?_of_digits hr₁ hr₂, channel?_of_digits hg₁ hg₂,
        channel?_of_digits hb₁ hb₂, bind, Option.bind, (join_digits _ hr₁ _ hr₂).2.1,
        (join_digits _ hg₁ _ hg₂).2.1, (join_digits _ hb₁ _ hb₂).2.1]
    | case3 _ hthree hsix =>
      refine ofBytes?_of_length ?_ ?_
      · intro hlength
        rw [List.length_map] at hlength
        obtain ⟨a, b, c, hs⟩ := List.length_eq_three.mp hlength
        exact hthree a b c hs
      · intro hlength
        rw [List.length_map] at hlength
        obtain ⟨a, b, c, d, e, f, hs⟩ := exists_of_length_eq_six hlength
        exact hsix a b c d e f hs
  · push Not at hall
    obtain ⟨a, ha, hdigit⟩ := hall
    obtain ⟨b, hb, hnone⟩ := exists_byteDigit?_eq_none hdigit
    have hdigits : ofDigits? s = none := by
      rw [← Option.not_isSome_iff_eq_none, isSome_ofDigits?_iff]
      exact fun h => hdigit (isHexDigit_iff_mem.mp (h.2 a ha))
    rw [hdigits]
    exact ofBytes?_eq_none (List.mem_flatMap.mpr ⟨a, ha, hb⟩) hnone

/-! ### Texts of colors -/

lemma ofHex?_eq_some_iff {s : String} : ofHex? s = some c ↔
    Written (trim s.toList) ∧ c.HasDigits (sixDigits (dropSign (trim s.toList))) := by
  rw [ofHex?, ofDigits?_eq_some_iff, written_iff, and_assoc]

lemma isHexDigit_of_mem_sixDigits (h : ∀ a ∈ s, IsHexDigit a) :
    ∀ a ∈ sixDigits s, IsHexDigit a := by
  unfold sixDigits
  split
  · simpa using h
  · exact h

/-- A color writes its digits in lower case. -/
lemma HasDigits.toHex (hc : c.HasDigits s) (h : ∀ a ∈ s, IsHexDigit a) :
    c.toHex.toList = '#' :: s.map Char.toLower := by
  unfold HasDigits at hc
  split at hc
  · obtain ⟨hred, hgreen, hblue⟩ := hc
    simp only [isHexDigit_iff_mem, List.forall_mem_cons] at h
    obtain ⟨hr₁, hr₂, hg₁, hg₂, hb₁, hb₂, -⟩ := h
    simp only [Color.toHex, hred, hgreen, hblue, (join_digits _ hr₁ _ hr₂).2.2,
      (join_digits _ hg₁ _ hg₂).2.2, (join_digits _ hb₁ _ hb₂).2.2, String.toList_ofList]
    rfl
  · exact hc.elim

/-- A text is a color if and only if it has three or six hexadecimal digits, behind at most one number
sign, with blanks around them or not; byte by byte it is read as it is character by character. The
color is the one with these digits, those of the short form doubled, and it writes them behind a
number sign in lower case. What a color writes is read as this color. -/
theorem digits_exact (s : String) :
    let written := trim s.toList
    let six := sixDigits (dropSign written)
    ofHexBytes? s = ofHex? s ∧ (ofHex? s = none ↔ ¬ Written written) ∧
    (∀ c, ofHex? s = some c ↔ Written written ∧ c.HasDigits six) ∧
    (∀ c, ofHex? s = some c → c.toHex.toList = '#' :: six.map Char.toLower) ∧
    ∀ c : Color, ofHex? c.toHex = some c := by
  intro written six
  refine ⟨ofBytes?_flatMap _, ?_, fun c => ofHex?_eq_some_iff, fun c hc => ?_, ofHex?_toHex⟩
  · rw [← isSome_ofHex?_iff, Option.not_isSome_iff_eq_none]
  · obtain ⟨hwritten, hdigits⟩ := ofHex?_eq_some_iff.mp hc
    apply hdigits.toHex
    apply isHexDigit_of_mem_sixDigits
    exact (written_iff.mp hwritten).2

/-- The short form in both cases between blanks, two number signs, and three letters of two bytes
each, which make six bytes. -/
theorem digits_exact_short :
    ofHex? " #aBc\t" = some ⟨0xAA, 0xBB, 0xCC⟩ ∧
      (⟨0xAA, 0xBB, 0xCC⟩ : Color).toHex.toList = "#aabbcc".toList ∧
      ofHex? "##fff" = none ∧ ofHexBytes? "ééé" = none := by
  obtain ⟨-, -, hcolor, hnormal, -⟩ := digits_exact " #aBc\t"
  have hwritten : Written (trim " #aBc\t".toList) := by decide +kernel
  have hread := (hcolor ⟨0xAA, 0xBB, 0xCC⟩).mpr ⟨hwritten, rfl, rfl, rfl⟩
  refine ⟨hread, hnormal _ hread, ?_, ?_⟩
  · rw [(digits_exact "##fff").2.1]
    decide +kernel
  · rw [(digits_exact "ééé").1, (digits_exact "ééé").2.1]
    decide +kernel

end Color

end Storyboard
