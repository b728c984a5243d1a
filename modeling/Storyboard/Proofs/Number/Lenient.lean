import Storyboard.Proofs.Json.Number
import Storyboard.Proofs.Number.Closest
import Storyboard.Proofs.Number.Typed

/-!
# Numbers at the start of a text

A number is read from a text as far as it goes, and what follows it may be anything but a point. A
point behind a number that has one already is taken for a part of it, and then there is no number
at all.
-/

namespace Storyboard.Numeral

open Text

/-! ### Numerals and what they denote -/

/-- Digits with at most one point among or around them denote an amount. -/
inductive Amount : List Char → ℚ → Prop
  | whole {w : List Char} (hw : Digits w) (hne : w ≠ []) : Amount w (ofDigits w)
  | point {w p : List Char} (hw : Digits w) (hp : Digits p) (hne : ¬(w = [] ∧ p = [])) :
      Amount (w ++ '.' :: p) (ofDigits w + ofDigits p / 10 ^ p.length)

/-- A numeral denotes an amount, below zero after a minus sign. -/
inductive Denotes : List Char → Bool → ℚ → Prop
  | plain {s : List Char} {q : ℚ} (h : Amount s q) : Denotes s false q
  | minus {s : List Char} {q : ℚ} (h : Amount s q) : Denotes ('-' :: s) true q

/-- A text begins with a numeral, and with no longer one. -/
structure Longest (t n rest : List Char) : Prop where
  split : t = n ++ rest
  longest : ∀ m r negative q, t = m ++ r → Denotes m negative q → m.length ≤ n.length

/-- The number at the start of a text: the nearest one to what the longest numeral denotes, or none if
there is no numeral or a point follows it. -/
inductive Leading (t : List Char) : Option Double → Prop
  | number {n rest : List Char} {negative : Bool} {q : ℚ} {x : Double}
      (hn : Denotes n negative q) (hlongest : Longest t n rest) (hrest : rest.head? ≠ some '.')
      (hx : x.IsNearest negative q) : Leading t (some x)
  | point {n rest : List Char} {negative : Bool} {q : ℚ}
      (hn : Denotes n negative q) (hlongest : Longest t n rest) (hrest : rest.head? = some '.') :
      Leading t none
  | none (h : ∀ m r negative q, t = m ++ r → ¬ Denotes m negative q) : Leading t none

variable {s t n m f w r rest : List Char} {negative : Bool} {q : ℚ} {d : Decimal}

/-! ### Decimals in a text -/

lemma value_whole (w : List Char) : (⟨ofDigits w, 0⟩ : Decimal).value = ofDigits w := by
  rw [Decimal.value, zpow_zero, mul_one]

/-- Places after the point are units of a smaller size. -/
lemma value_point (w p : List Char) : (⟨ofDigits (w ++ p), -(p.length : ℤ)⟩ : Decimal).value
    = ofDigits w + ofDigits p / 10 ^ p.length := by
  rw [Decimal.value, Json.ofDigits_append, zpow_neg, zpow_natCast]
  push_cast
  field_simp

/-- What is read as a decimal is an amount, and no digit follows it. -/
lemma amount_of_spanDecimal (h : spanDecimal s = some (d, rest)) :
    ∃ f, Amount f d.value ∧ s = f ++ rest ∧ ∀ c ∈ rest.head?, c.isDigit = false := by
  obtain ⟨hrest, ⟨w, hw, hne, hs, rfl⟩ | ⟨w, p, hw, hp, hne, hs, rfl⟩⟩ := of_spanDecimal h
  · rw [value_whole]
    exact ⟨w, .whole hw hne, hs, hrest⟩
  · rw [value_point]
    exact ⟨w ++ '.' :: p, .point hw hp hne, hs, hrest⟩

lemma spanDigits_digits_append (hw : Digits w) (r : List Char) :
    spanDigits (w ++ r) = (w ++ (spanDigits r).1, (spanDigits r).2) := by
  rw [spanDigits, List.takeWhile_append_of_pos hw, List.dropWhile_append_of_pos hw]
  rfl

/-- A text is read at least as far as any amount at its start. -/
lemma Amount.spanDecimal_append (h : Amount f q) (r : List Char) :
    ∃ d rest, spanDecimal (f ++ r) = some (d, rest) ∧ rest.length ≤ r.length := by
  cases h with
  | whole hw hne =>
    have hspan := spanDigits_digits_append hw r
    have hle := spanDigits_length_le r
    have hne' : f ++ (spanDigits r).1 ≠ [] := List.append_ne_nil_of_left_ne_nil hne _
    by_cases hpoint : (spanDigits r).2.head? = some '.'
    · obtain ⟨r', hr'⟩ := List.head?_eq_some_iff.mp hpoint
      rw [hr'] at hspan hle
      refine ⟨_, _, (spanDecimal_point hspan).trans (if_neg fun hnil => hne' hnil.1), ?_⟩
      exact (spanDigits_length_le r').trans (Nat.le_of_succ_le hle)
    · exact ⟨_, _, (spanDecimal_whole hspan hpoint).trans (if_neg hne'), hle⟩
  | @point w p hw hp hne =>
    have hspan := spanDigits_digits_point hw (p ++ r)
    have hne' : ¬(w = [] ∧ (spanDigits (p ++ r)).1 = []) := by
      rw [spanDigits_digits_append hp r]
      exact fun hnil => hne ⟨hnil.1, (List.append_eq_nil_iff.mp hnil.2).1⟩
    rw [List.append_assoc, List.cons_append]
    refine ⟨_, _, (spanDecimal_point hspan).trans (if_neg hne'), ?_⟩
    rw [spanDigits_digits_append hp r]
    exact spanDigits_length_le r

/-- An amount by itself is read for what it denotes. -/
lemma Amount.spanDecimal (h : Amount f q) :
    ∃ d, Numeral.spanDecimal f = some (d, []) ∧ d.value = q := by
  have hall : ∀ {w}, Digits w → spanDigits w = (w, []) := by
    intro w hw
    have hspan : spanDigits (w ++ []) = (w, []) := spanDigits_of_digits hw (by simp)
    rwa [List.append_nil] at hspan
  cases h with
  | whole hw hne =>
    exact ⟨_, (spanDecimal_whole (hall hw) (by simp)).trans (if_neg hne), value_whole f⟩
  | @point w p hw hp hne =>
    have hread := spanDecimal_point (spanDigits_digits_point hw p)
    rw [hall hp, if_neg hne] at hread
    exact ⟨_, hread, value_point w p⟩

lemma Amount.unique {q' : ℚ} (h : Amount f q) (h' : Amount f q') : q = q' := by
  obtain ⟨d, hd, rfl⟩ := h.spanDecimal
  obtain ⟨d', hd', rfl⟩ := h'.spanDecimal
  rw [hd, Option.some.injEq, Prod.mk.injEq] at hd'
  rw [hd'.1]

/-! ### The run of digits and points -/

lemma spanDigits_takeWhile (s : List Char) : spanDigits (s.takeWhile isNumeric)
    = ((spanDigits s).1, (spanDigits s).2.takeWhile isNumeric) := by
  induction s with
  | nil => rfl
  | cons c s ih =>
    by_cases hdigit : c.isDigit = true
    · have hnumeric : isNumeric c = true := by simp [isNumeric, hdigit]
      simpa [spanDigits, hdigit, hnumeric] using ih
    · by_cases hnumeric : isNumeric c = true <;> simp [spanDigits, hdigit, hnumeric]

/-- Whatever is read of a text stands in its run of digits and points. -/
lemma spanDecimal_takeWhile (s : List Char) : spanDecimal (s.takeWhile isNumeric)
    = (spanDecimal s).map fun p => (p.1, p.2.takeWhile isNumeric) := by
  have hspan := spanDigits_takeWhile s
  rcases hs : spanDigits s with ⟨w, r⟩
  rw [hs] at hspan
  cases r with
  | nil =>
    rw [List.takeWhile_nil] at hspan
    rw [spanDecimal_whole hspan (by simp), spanDecimal_whole hs (by simp)]
    split <;> rfl
  | cons c r =>
    by_cases hc : c = '.'
    · subst hc
      have hpoint : ('.' :: r).takeWhile isNumeric = '.' :: r.takeWhile isNumeric := rfl
      rw [hpoint] at hspan
      rw [spanDecimal_point hspan, spanDecimal_point hs, spanDigits_takeWhile r]
      split <;> rfl
    · have hdigit : c.isDigit = false := head_spanDigits s c (by rw [hs]; rfl)
      have hstop : (c :: r).takeWhile isNumeric = [] := by simp [isNumeric, hdigit, hc]
      rw [hstop] at hspan
      rw [spanDecimal_whole hspan (by simp), spanDecimal_whole hs (by simpa using hc)]
      split
      · rfl
      · simp [hstop]

/-- A number is read if and only if no point follows it. -/
lemma takeWhile_eq_nil_iff (h : ∀ c ∈ rest.head?, c.isDigit = false) :
    rest.takeWhile isNumeric = [] ↔ rest.head? ≠ some '.' := by
  cases rest with
  | nil => simp
  | cons c rest =>
    have hdigit : c.isDigit = false := h c rfl
    simp [List.takeWhile_cons, isNumeric, hdigit]

/-! ### Numerals at the start of a text -/

lemma Amount.figures (h : Amount f q) : Figures f := by
  cases h with
  | whole hw hne => exact .whole hw hne
  | point hw hp hne => exact .point hw hp hne

lemma Amount.spanMinus (h : Amount f q) (r : List Char) :
    spanMinus (f ++ r) = (false, f ++ r) := by
  have hhead : ∀ c ∈ (f ++ r).head?, c ≠ '-' ∧ c ≠ '+' := h.figures.head
  unfold Numeral.spanMinus
  split
  · rename_i heq
    rw [heq] at hhead
    exact absurd rfl (hhead '-' rfl).1
  · rfl

/-- A text begins with a numeral if and only if it begins with an amount after its sign. -/
lemma denotes_prefix_iff : (∃ n, Denotes n negative q ∧ t = n ++ r) ↔
    ∃ f, Amount f q ∧ spanMinus t = (negative, f ++ r) := by
  constructor
  · rintro ⟨n, hn, rfl⟩
    cases hn with
    | plain h => exact ⟨n, h, h.spanMinus r⟩
    | @minus f _ h => exact ⟨f, h, rfl⟩
  · rintro ⟨f, hf, ht⟩
    unfold spanMinus at ht
    split at ht
    · obtain ⟨rfl, rfl⟩ := Prod.mk.inj ht
      exact ⟨'-' :: f, .minus hf, rfl⟩
    · obtain ⟨rfl, rfl⟩ := Prod.mk.inj ht
      exact ⟨f, .plain hf, rfl⟩

lemma Denotes.unique {negative' : Bool} {q' : ℚ} (h : Denotes n negative q)
    (h' : Denotes n negative' q') : negative = negative' ∧ q = q' := by
  have hsplit : n = n ++ [] := (List.append_nil n).symm
  obtain ⟨f, hf, hn⟩ := denotes_prefix_iff.mp ⟨n, h, hsplit⟩
  obtain ⟨f', hf', hn'⟩ := denotes_prefix_iff.mp ⟨n, h', hsplit⟩
  rw [hn, Prod.mk.injEq, List.append_nil, List.append_nil] at hn'
  obtain ⟨hsign, rfl⟩ := hn'
  exact ⟨hsign, hf.unique hf'⟩

/-- What is read after the sign of a text is the longest numeral at its start. -/
lemma longest_of_spanDecimal (ht : spanMinus t = (negative, s))
    (hs : spanDecimal s = some (d, rest)) : ∃ n, Denotes n negative d.value ∧ Longest t n rest ∧
      ∀ c ∈ rest.head?, c.isDigit = false := by
  obtain ⟨f, hf, rfl, hrest⟩ := amount_of_spanDecimal hs
  obtain ⟨n, hn, hsplit⟩ := denotes_prefix_iff.mpr ⟨f, hf, ht⟩
  refine ⟨n, hn, ⟨hsplit, ?_⟩, hrest⟩
  intro m r negative' q' hsplit' hm
  obtain ⟨f', hf', ht'⟩ := denotes_prefix_iff.mp ⟨m, hm, hsplit'⟩
  obtain ⟨d', rest', hs', hle⟩ := hf'.spanDecimal_append r
  rw [ht, Prod.mk.injEq] at ht'
  rw [← ht'.2, hs, Option.some.injEq, Prod.mk.injEq] at hs'
  have hlength : (n ++ rest).length = (m ++ r).length := by rw [← hsplit, hsplit']
  rw [List.length_append, List.length_append, hs'.2] at hlength
  omega

lemma Longest.unique {n' rest' : List Char} {negative' : Bool} {q' : ℚ} (h : Longest t n rest)
    (h' : Longest t n' rest') (hn : Denotes n negative q) (hn' : Denotes n' negative' q') :
    n = n' ∧ rest = rest' := by
  have hlength : n.length = n'.length :=
    Nat.le_antisymm (h'.longest n rest negative q h.split hn)
      (h.longest n' rest' negative' q' h'.split hn')
  exact List.append_inj (h.split.symm.trans h'.split) hlength

/-! ### The number at the start of a text -/

/-- A text has one outcome. -/
lemma Leading.unique {o o' : Option Double} (h : Leading t o) (h' : Leading t o') : o = o' := by
  cases h with
  | number hn hlongest hrest hx =>
    cases h' with
    | number hn' hlongest' _ hx' =>
      obtain ⟨rfl, rfl⟩ := hlongest.unique hlongest' hn hn'
      obtain ⟨rfl, rfl⟩ := hn.unique hn'
      rw [hx.unique hx']
    | point hn' hlongest' hrest' =>
      obtain ⟨rfl, rfl⟩ := hlongest.unique hlongest' hn hn'
      exact absurd hrest' hrest
    | none hnone => exact absurd hn (hnone _ _ _ _ hlongest.split)
  | point hn hlongest hrest =>
    cases h' with
    | number hn' hlongest' hrest' _ =>
      obtain ⟨rfl, rfl⟩ := hlongest.unique hlongest' hn hn'
      exact absurd hrest hrest'
    | point => rfl
    | none => rfl
  | none hnone =>
    cases h' with
    | number hn hlongest => exact absurd hn (hnone _ _ _ _ hlongest.split)
    | point => rfl
    | none => rfl

lemma leading_lenient (s : List Char) : Leading (trim s) (lenient s) := by
  rcases ht : spanMinus (trim s) with ⟨negative, body⟩
  cases hbody : spanDecimal body with
  | none =>
    have hread : lenient s = none := by
      simp only [lenient, ht, spanDecimal_takeWhile, hbody, Option.map_none]
    rw [hread]
    apply Leading.none
    intro m r negative' q hsplit hm
    obtain ⟨f, hf, ht'⟩ := denotes_prefix_iff.mp ⟨m, hm, hsplit⟩
    obtain ⟨d, rest, hread', -⟩ := hf.spanDecimal_append r
    rw [ht, Prod.mk.injEq] at ht'
    rw [← ht'.2, hbody] at hread'
    cases hread'
  | some p =>
    obtain ⟨d, rest⟩ := p
    obtain ⟨n, hn, hlongest, hrest⟩ := longest_of_spanDecimal ht hbody
    by_cases hpoint : rest.head? = some '.'
    · have hread : lenient s = none := by
        obtain ⟨r, rfl⟩ := List.head?_eq_some_iff.mp hpoint
        simp only [lenient, ht, spanDecimal_takeWhile, hbody, Option.map_some]
        rfl
      rw [hread]
      exact .point hn hlongest hpoint
    · have hread : lenient s = some (d.nearest .double negative) := by
        simp only [lenient, ht, spanDecimal_takeWhile, hbody, Option.map_some,
          (takeWhile_eq_nil_iff hrest).mpr hpoint]
      rw [hread]
      exact .number hn hlongest hpoint (d.isNearest_nearest negative)

/-- What is read of a text is the number at its start: the binary number nearest to what the longest
numeral denotes, whatever follows it, except that a numeral with a point behind it is not read. A
text that does not begin with a numeral has no number. -/
theorem lenient_eq_iff (s : List Char) (o : Option Double) :
    lenient s = o ↔ Leading (trim s) o := by
  constructor
  · rintro rfl
    exact leading_lenient s
  · intro h
    exact (leading_lenient s).unique h

/-- A unit and a second sign end a numeral, and a unit by itself is none. -/
theorem lenient_eq_iff_units :
    Leading (trim " -.5-2px".toList) (some ((⟨5, -1⟩ : Decimal).nearest .double true)) ∧
      Leading (trim "120px".toList) (some ((⟨12, 1⟩ : Decimal).nearest .double false)) ∧
      Leading (trim "px".toList) none := by
  refine ⟨(lenient_eq_iff _ _).mp ?_, (lenient_eq_iff _ _).mp ?_, (lenient_eq_iff _ _).mp ?_⟩
  · decide +kernel
  · decide +kernel
  · decide +kernel

/-- The longest numeral at the start of a text with two points, and the second point keeps it from
being read. -/
theorem number_lost_by_second_point :
    Denotes "1.2".toList false (6 / 5) ∧
      Longest (trim "1.2.3".toList) "1.2".toList ".3".toList ∧ lenient "1.2.3".toList = none := by
  have htext : trim "1.2.3".toList = "1.2".toList ++ ".3".toList := by decide +kernel
  have hsign : spanMinus (trim "1.2.3".toList) = (false, trim "1.2.3".toList) := by
    decide +kernel
  have hread : spanDecimal (trim "1.2.3".toList) = some (⟨12, -1⟩, ".3".toList) := by
    decide +kernel
  obtain ⟨n, hn, hlongest, -⟩ := longest_of_spanDecimal hsign hread
  obtain rfl : "1.2".toList = n := List.append_cancel_right (htext.symm.trans hlongest.split)
  have hvalue : (⟨12, -1⟩ : Decimal).value = 6 / 5 := by norm_num [Decimal.value]
  rw [hvalue] at hn
  exact ⟨hn, hlongest, by decide +kernel⟩

end Storyboard.Numeral
