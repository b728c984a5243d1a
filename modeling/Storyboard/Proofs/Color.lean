import Storyboard.Color
import Storyboard.Proofs.Json.Read

/-!
# Reading written colors

Both notations of a color give it back: the digits that an element has and the object that the
settings have.
-/

namespace Storyboard.Color

open Text Json

/-- The two digits of a channel stand for it and are no blanks. -/
lemma hexText_channel (b : UInt8) :
    ∃ c d, hexText 2 b.toNat = [c, d] ∧ channel? c d = some b ∧ isBlank c = false ∧
      isBlank d = false := by
  have key : ∀ n < 256, (hexText 2 n).length = 2 ∧
      channel? ((hexText 2 n).getD 0 ' ') ((hexText 2 n).getD 1 ' ') = some (UInt8.ofNat n) ∧
      (hexText 2 n).all fun c => !isBlank c := by
    decide +kernel
  obtain ⟨hlen, hchannel, hblank⟩ := key b.toNat b.toNat_lt
  obtain ⟨c, d, hcd⟩ := List.length_eq_two.mp hlen
  rw [hcd] at hchannel hblank ⊢
  refine ⟨c, d, rfl, ?_, by simpa using hblank⟩
  simpa using hchannel

/-- A color is read back from its digits. -/
theorem ofHex?_toHex (c : Color) : ofHex? c.toHex = some c := by
  obtain ⟨r₁, r₂, hr, hr', hr₁, hr₂⟩ := hexText_channel c.red
  obtain ⟨g₁, g₂, hg, hg', hg₁, hg₂⟩ := hexText_channel c.green
  obtain ⟨b₁, b₂, hb, hb', hb₁, hb₂⟩ := hexText_channel c.blue
  have htext : c.toHex.toList = ['#', r₁, r₂, g₁, g₂, b₁, b₂] := by
    simp [toHex, hr, hg, hb]
  have hnone : ∀ x ∈ ['#', r₁, r₂, g₁, g₂, b₁, b₂], isBlank x = false := by
    simp only [List.forall_mem_cons, List.not_mem_nil, false_implies, implies_true, and_true]
    exact ⟨by decide, hr₁, hr₂, hg₁, hg₂, hb₁, hb₂⟩
  rw [ofHex?, htext, trim_of_none hnone]
  simp [dropSign, ofDigits?, hr', hg', hb', bind, Option.bind, pure]

/-! ### What is a color -/

/-- The digits of hexadecimal notation, in either case. -/
def IsHexDigit (c : Char) : Prop :=
  ('0' ≤ c ∧ c ≤ '9') ∨ ('a' ≤ c ∧ c ≤ 'f') ∨ ('A' ≤ c ∧ c ≤ 'F')

instance : DecidablePred IsHexDigit :=
  fun _ => inferInstanceAs (Decidable (_ ∨ _ ∨ _))

/-- Three or six hexadecimal digits, after a number sign or without one. -/
inductive Written : List Char → Prop
  | bare {digits : List Char} (hlength : digits.length = 3 ∨ digits.length = 6)
      (hdigits : ∀ c ∈ digits, IsHexDigit c) : Written digits
  | signed {digits : List Char} (hlength : digits.length = 3 ∨ digits.length = 6)
      (hdigits : ∀ c ∈ digits, IsHexDigit c) : Written ('#' :: digits)

lemma isSome_hexDigit?_iff {c : Char} : (hexDigit? c).isSome = true ↔ IsHexDigit c := by
  unfold hexDigit? IsHexDigit
  split
  · simp [*]
  · split
    · simp [*]
    · split <;> simp [*]

lemma isSome_channel?_iff {a b : Char} :
    (channel? a b).isSome = true ↔ IsHexDigit a ∧ IsHexDigit b := by
  rw [← isSome_hexDigit?_iff, ← isSome_hexDigit?_iff, channel?]
  cases hexDigit? a <;> cases hexDigit? b <;> simp

lemma isSome_color_iff {r g b : Option UInt8} :
    (do return (⟨← r, ← g, ← b⟩ : Color) : Option Color).isSome = true ↔
      r.isSome = true ∧ g.isSome = true ∧ b.isSome = true := by
  cases r <;> cases g <;> cases b <;> simp

lemma exists_of_length_eq_six : ∀ {s : List Char}, s.length = 6 →
    ∃ a b c d e f, s = [a, b, c, d, e, f]
  | [a, b, c, d, e, f], _ => ⟨a, b, c, d, e, f, rfl⟩

lemma isSome_ofDigits?_iff {s : List Char} : (ofDigits? s).isSome = true ↔
    (s.length = 3 ∨ s.length = 6) ∧ ∀ c ∈ s, IsHexDigit c := by
  unfold ofDigits?
  split
  · simp only [isSome_color_iff, isSome_channel?_iff, List.forall_mem_cons]
    simp
  · simp only [isSome_color_iff, isSome_channel?_iff, List.forall_mem_cons]
    simp [and_assoc]
  · rename_i hthree hsix
    refine iff_of_false (by simp) ?_
    rintro ⟨hlength | hlength, -⟩
    · obtain ⟨a, b, c, rfl⟩ := List.length_eq_three.mp hlength
      exact hthree a b c rfl
    · obtain ⟨a, b, c, d, e, f, rfl⟩ := exists_of_length_eq_six hlength
      exact hsix a b c d e f rfl

lemma written_iff {s : List Char} : Written s ↔
    ((dropSign s).length = 3 ∨ (dropSign s).length = 6) ∧ ∀ a ∈ dropSign s, IsHexDigit a := by
  constructor
  · intro h
    cases h with
    | bare hlength hdigits =>
      -- A number sign is no digit, so none is taken away.
      have hdrop : dropSign s = s := by
        unfold dropSign
        split
        · exact absurd (hdigits '#' List.mem_cons_self) (by decide)
        · rfl
      rw [hdrop]
      exact ⟨hlength, hdigits⟩
    | signed hlength hdigits => exact ⟨hlength, hdigits⟩
  · rintro ⟨hlength, hdigits⟩
    unfold dropSign at hlength hdigits
    split at hlength
    · exact .signed hlength hdigits
    · exact .bare hlength (by simpa using hdigits)

instance (s : List Char) : Decidable (Written s) :=
  decidable_of_iff (((dropSign s).length = 3 ∨ (dropSign s).length = 6) ∧
      (dropSign s).all (IsHexDigit ·) = true) <| by
    simp only [written_iff, List.all_eq_true, decide_eq_true_eq]

theorem isSome_ofHex?_iff {s : String} :
    (ofHex? s).isSome = true ↔ Written (trim s.toList) := by
  rw [ofHex?, isSome_ofDigits?_iff, written_iff]

/-- What a color writes, channel by channel. -/
def table (c : Color) : List (Channel × Value) :=
  [(.red, .int c.red.toNat), (.green, .int c.green.toNat), (.blue, .int c.blue.toNat)]

/-- What is read of a channel. -/
def channel (c : Color) : Channel → Nat
  | .red => c.red.toNat
  | .green => c.green.toNat
  | .blue => c.blue.toNat

lemma natBelow_channel (room : Nat) (b : UInt8) :
    Reader.natBelow 256 room (.ofValue (.int b.toNat)) = .ok b.toNat := by
  have hb := b.toNat_lt
  simp only [Value.int, Draft.ofValue, Reader.natBelow]
  rw [if_pos (by omega), Int.toNat_natCast]

lemma reader_toValue (room : Nat) (c : Color) : reader (room + 1) (.ofValue c.toValue) = .ok c := by
  have hfind : ∀ k, fields.find? (fields.name k) = some k := by
    intro k
    cases k <;> rfl
  have hvalue : c.toValue = .object (c.table.map fun m => (fields.name m.1, m.2)) := rfl
  have hpart : ∀ m ∈ c.table, fields.read m.1 room (.ofValue m.2) = .ok (c.channel m.1) := by
    intro m hm
    simp only [table, List.mem_cons, List.not_mem_nil, or_false] at hm
    rcases hm with rfl | rfl | rfl
    · simp only [fields, natBelow_channel, channel]
    · simp only [fields, natBelow_channel, channel]
    · simp only [fields, natBelow_channel, channel]
  have hgreen : (Channel.green == .red) = false := rfl
  have hblue : (Channel.blue == .red) = false ∧ (Channel.blue == .green) = false := ⟨rfl, rfl⟩
  rw [reader, hvalue, fields.table_written hfind hpart (by simp [table])]
  simp [table, channel, List.lookup_cons, hgreen, hblue, bind, Except.bind, pure, Except.pure]

/-- A color is read back from its object. -/
theorem ofValue?_toValue (c : Color) : ofValue? c.toValue = some c := by
  rw [ofValue?, nesting, reader_toValue]
  rfl

lemma readable_toValue (c : Color) : c.toValue.Readable := by
  have hchannel (b : UInt8) : fits64 (b.toNat : Int) = true := by
    have hb := b.toNat_lt
    simp only [fits64, Bool.and_eq_true, decide_eq_true_eq]
    omega
  exact ⟨readsBack_int (hchannel _), readsBack_int (hchannel _), readsBack_int (hchannel _),
    trivial⟩

lemma fits_toValue (c : Color) (room : Nat) : c.toValue.Fits (room + 1) := by
  exact ⟨by simp [Entries.names], trivial, trivial, trivial, trivial⟩

end Storyboard.Color
