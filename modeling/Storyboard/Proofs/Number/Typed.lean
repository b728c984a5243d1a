import Mathlib.Tactic.Common
import Storyboard.Number.Typed

/-!
# Texts of numbers

Which texts are numbers, said by a grammar: a sign, figures around at most one point, and a power of
ten, or infinity in letters. A field for a number takes these and nothing else, apart from the word
for what is no number.
-/

namespace Storyboard.Numeral

open Text

/-! ### The grammar -/

/-- A sign in front, or none. -/
inductive Sign : List Char → Prop
  | none : Sign []
  | plus : Sign ['+']
  | minus : Sign ['-']

/-- Some digits, or none. -/
def Digits (s : List Char) : Prop :=
  ∀ c ∈ s, c.isDigit = true

/-- Digits with at most one point among or around them. -/
inductive Figures : List Char → Prop
  | whole {w : List Char} (hw : Digits w) (hne : w ≠ []) : Figures w
  | point {w p : List Char} (hw : Digits w) (hp : Digits p) (hne : ¬(w = [] ∧ p = [])) :
      Figures (w ++ '.' :: p)

/-- A power of ten behind the figures, or none. -/
inductive Power : List Char → Prop
  | none : Power []
  | some {c : Char} {sign d : List Char} (hc : c = 'e' ∨ c = 'E') (hsign : Sign sign)
      (hd : Digits d) (hne : d ≠ []) : Power (c :: (sign ++ d))

/-- The text of a number. -/
inductive Written : List Char → Prop
  | decimal {sign figures power : List Char} (hsign : Sign sign) (hfigures : Figures figures)
      (hpower : Power power) : Written (sign ++ (figures ++ power))
  | infinity {sign word : List Char} (hsign : Sign sign)
      (hword : word.map Char.toLower = "inf".toList ∨ word.map Char.toLower = "infinity".toList) :
      Written (sign ++ word)

/-- The word for what is no number. -/
inductive NoNumber : List Char → Prop
  | nan {sign word : List Char} (hsign : Sign sign)
      (hword : word.map Char.toLower = "nan".toList) : NoNumber (sign ++ word)

variable {s w r sign figures rest : List Char}

/-! ### Signs -/

lemma exists_sign (s : List Char) : ∃ sign, Sign sign ∧ s = sign ++ (spanSign s).2 := by
  unfold spanSign
  split
  · exact ⟨_, .minus, rfl⟩
  · exact ⟨_, .plus, rfl⟩
  · exact ⟨_, .none, rfl⟩

lemma spanSign_append (hsign : Sign sign) (hs : ∀ c ∈ s.head?, c ≠ '-' ∧ c ≠ '+') :
    (spanSign (sign ++ s)).2 = s := by
  cases hsign with
  | none =>
    cases s with
    | nil => rfl
    | cons c s =>
      obtain ⟨hminus, hplus⟩ := hs c rfl
      unfold spanSign
      split
      · rename_i h
        exact absurd (List.cons.inj h).1 hminus
      · rename_i h
        exact absurd (List.cons.inj h).1 hplus
      · rfl
  | plus => rfl
  | minus => rfl

/-- What is a letter in lower case is no sign. -/
lemma head_word {word l : List Char} {k : Char} (h : word.map Char.toLower = k :: l)
    (hk : k ≠ '-' ∧ k ≠ '+') : ∀ c ∈ word.head?, c ≠ '-' ∧ c ≠ '+' := by
  cases word with
  | nil => cases h
  | cons c word =>
    have hlower : c.toLower = k := (List.cons.inj h).1
    rintro d ⟨⟩
    constructor
    · rintro rfl
      exact hk.1 hlower.symm
    · rintro rfl
      exact hk.2 hlower.symm

/-! ### Figures and powers -/

lemma digits_spanDigits (s : List Char) : Digits (spanDigits s).1 := by
  have hall : (s.takeWhile Char.isDigit).all Char.isDigit = true := List.all_takeWhile
  exact List.all_eq_true.mp hall

lemma head_spanDigits (s : List Char) : ∀ c ∈ (spanDigits s).2.head?, c.isDigit = false := by
  intro c hc
  have hnot := List.head?_dropWhile_not Char.isDigit s
  rw [show (s.dropWhile Char.isDigit).head? = some c from hc] at hnot
  simpa using hnot

lemma spanDigits_digits_point (hw : Digits w) (r : List Char) :
    spanDigits (w ++ '.' :: r) = (w, '.' :: r) :=
  spanDigits_of_digits hw (by rintro c ⟨⟩; decide)

lemma Figures.head (h : Figures figures) :
    ∀ c ∈ (figures ++ rest).head?, c ≠ '-' ∧ c ≠ '+' := by
  have hdigit : ∀ c : Char, c.isDigit = true → c ≠ '-' ∧ c ≠ '+' := by
    intro c hc
    constructor <;> (rintro rfl; exact absurd hc (by decide))
  cases h with
  | whole hw hne =>
    cases figures with
    | nil => exact absurd rfl hne
    | cons c figures =>
      rintro d ⟨⟩
      exact hdigit c (hw c List.mem_cons_self)
  | @point w p hw hp hne =>
    cases w with
    | nil =>
      rintro d ⟨⟩
      decide
    | cons c w =>
      rintro d ⟨⟩
      exact hdigit c (hw c List.mem_cons_self)

lemma Power.head (h : Power rest) : ∀ c ∈ rest.head?, c.isDigit = false ∧ c ≠ '.' := by
  cases h with
  | none => rintro c ⟨⟩
  | some hc =>
    rintro d ⟨⟩
    rcases hc with rfl | rfl <;> decide

lemma spanDecimal_point (h : spanDigits s = (w, '.' :: r)) :
    spanDecimal s = if w = [] ∧ (spanDigits r).1 = [] then none else
      some (⟨ofDigits (w ++ (spanDigits r).1), -((spanDigits r).1.length : Int)⟩,
        (spanDigits r).2) := by
  rw [spanDecimal, h]
  rfl

lemma spanDecimal_whole (h : spanDigits s = (w, r)) (hr : r.head? ≠ some '.') :
    spanDecimal s = if w = [] then none else some (⟨ofDigits w, 0⟩, r) := by
  rw [spanDecimal, h]
  split
  · rename_i heq
    obtain ⟨-, rfl⟩ := Prod.mk.inj heq
    exact absurd rfl hr
  · rename_i heq
    obtain ⟨rfl, rfl⟩ := Prod.mk.inj heq
    rfl

/-- A decimal is read of digits, or of digits around a point, and no digit follows them. -/
lemma of_spanDecimal {d : Decimal} (h : spanDecimal s = some (d, rest)) :
    (∀ c ∈ rest.head?, c.isDigit = false) ∧
      ((∃ w, Digits w ∧ w ≠ [] ∧ s = w ++ rest ∧ d = ⟨ofDigits w, 0⟩) ∨
        ∃ w p, Digits w ∧ Digits p ∧ ¬(w = [] ∧ p = []) ∧ s = (w ++ '.' :: p) ++ rest ∧
          d = ⟨ofDigits (w ++ p), -(p.length : Int)⟩) := by
  have hsplit := spanDigits_append s
  have hwhole := digits_spanDigits s
  have hhead := head_spanDigits s
  rcases hs : spanDigits s with ⟨w, r⟩
  rw [hs] at hsplit hwhole hhead
  by_cases hr : r.head? = some '.'
  · obtain ⟨r, rfl⟩ := List.head?_eq_some_iff.mp hr
    rw [spanDecimal_point hs] at h
    simp only [Option.ite_none_left_eq_some, Option.some.injEq, Prod.mk.injEq] at h
    obtain ⟨hne, rfl, rfl⟩ := h
    refine ⟨head_spanDigits r, .inr ⟨w, _, hwhole, digits_spanDigits r, hne, ?_, rfl⟩⟩
    rw [List.append_assoc, List.cons_append, spanDigits_append, hsplit]
  · rw [spanDecimal_whole hs hr] at h
    simp only [Option.ite_none_left_eq_some, Option.some.injEq, Prod.mk.injEq] at h
    obtain ⟨hne, rfl, rfl⟩ := h
    exact ⟨hhead, .inl ⟨w, hwhole, hne, hsplit.symm, rfl⟩⟩

/-- What is read as a decimal is the figures at the start of the text. -/
lemma exists_figures {d : Decimal} (h : spanDecimal s = some (d, rest)) :
    ∃ figures, Figures figures ∧ s = figures ++ rest := by
  obtain ⟨-, ⟨w, hw, hne, hs, -⟩ | ⟨w, p, hw, hp, hne, hs, -⟩⟩ := of_spanDecimal h
  · exact ⟨w, .whole hw hne, hs⟩
  · exact ⟨w ++ '.' :: p, .point hw hp hne, hs⟩

/-- Figures that are not followed by more of them are read. -/
lemma Figures.spanDecimal (h : Figures figures)
    (hrest : ∀ c ∈ rest.head?, c.isDigit = false ∧ c ≠ '.') :
    ∃ d, spanDecimal (figures ++ rest) = some (d, rest) := by
  have hdelimited : ∀ c ∈ rest.head?, c.isDigit = false := fun c hc => (hrest c hc).1
  cases h with
  | whole hw hne =>
    have hpoint : rest.head? ≠ some '.' := fun hhead => (hrest '.' hhead).2 rfl
    have hspan := spanDigits_of_digits hw hdelimited
    exact ⟨_, (spanDecimal_whole hspan hpoint).trans (if_neg hne)⟩
  | @point w p hw hp hne =>
    have hread := spanDecimal_point (spanDigits_digits_point hw (p ++ rest))
    rw [spanDigits_of_digits hp hdelimited, if_neg hne] at hread
    rw [List.append_assoc, List.cons_append]
    exact ⟨_, hread⟩

lemma isSome_exponent?_iff : (exponent? s).isSome = true ↔ Power s := by
  constructor
  · intro h
    cases s with
    | nil => exact .none
    | cons c s =>
      obtain ⟨sign, hsign, hs⟩ := exists_sign s
      have hsplit := spanDigits_append (spanSign s).2
      have hdigits := digits_spanDigits (spanSign s).2
      simp only [exponent?] at h
      split at h
      · rename_i hcond
        obtain ⟨hc, hne, hrest⟩ := hcond
        rw [hrest, List.append_nil] at hsplit
        rw [hs, ← hsplit]
        exact .some hc hsign hdigits hne
      · cases h
  · intro h
    cases h with
    | none => rfl
    | @some c sign d hc hsign hd hne =>
      have hhead : ∀ k ∈ d.head?, k ≠ '-' ∧ k ≠ '+' := by
        have hfigures : ∀ k ∈ (d ++ []).head?, k ≠ '-' ∧ k ≠ '+' := (Figures.whole hd hne).head
        rwa [List.append_nil] at hfigures
      have hspan : spanDigits d = (d, []) := by
        have happend : spanDigits (d ++ []) = (d, []) := spanDigits_of_digits hd (by rintro c ⟨⟩)
        rwa [List.append_nil] at happend
      simp [exponent?, spanSign_append hsign hhead, hspan, hc, hne]

/-! ### Numbers -/

lemma typed?_of_noNumber (h : NoNumber (trim s)) : typed? s = some 0 := by
  generalize ht : trim s = t at h
  cases h with
  | @nan sign word hsign hword =>
    have hbody : (spanSign (sign ++ word)).2 = word :=
      spanSign_append hsign (head_word hword (by decide))
    simp only [typed?, ht, hbody, hword, if_true]

/-- A text is read if and only if it is a number by the grammar, or the word for none. -/
theorem isSome_typed?_iff :
    (typed? s).isSome = true ↔ Written (trim s) ∨ NoNumber (trim s) := by
  constructor
  · intro h
    obtain ⟨sign, hsign, ht⟩ := exists_sign (trim s)
    simp only [typed?] at h
    split at h
    · rename_i hnan
      rw [ht]
      exact .inr (.nan hsign hnan)
    · split at h
      · rename_i hword
        rw [ht]
        exact .inl (.infinity hsign hword)
      · obtain ⟨i, hi⟩ := Option.isSome_iff_exists.mp h
        obtain ⟨⟨d, rest⟩, hdecimal, hrest⟩ := Option.bind_eq_some_iff.mp hi
        obtain ⟨e, he, -⟩ := Option.bind_eq_some_iff.mp hrest
        obtain ⟨figures, hfigures, hbody⟩ := exists_figures hdecimal
        have hpower : Power rest := isSome_exponent?_iff.mp (Option.isSome_of_eq_some he)
        rw [ht, hbody]
        exact .inl (.decimal hsign hfigures hpower)
  · rintro (h | h)
    · generalize ht : trim s = t at h
      simp only [typed?, ht]
      split
      · rfl
      · split
        · rfl
        · cases h with
          | @infinity sign word hsign hword =>
            rename_i hletters
            have hbody : (spanSign (sign ++ word)).2 = word := by
              rcases hword with hword | hword
              · exact spanSign_append hsign (head_word hword (by decide))
              · exact spanSign_append hsign (head_word hword (by decide))
            rw [hbody] at hletters
            exact absurd hword hletters
          | decimal hsign hfigures hpower =>
            obtain ⟨d, hd⟩ := hfigures.spanDecimal hpower.head
            obtain ⟨e, he⟩ := Option.isSome_iff_exists.mp (isSome_exponent?_iff.mpr hpower)
            rw [spanSign_append hsign hfigures.head, hd]
            simp only [bind, Option.bind, he]
            rfl
    · rw [typed?_of_noNumber h]
      rfl

end Storyboard.Numeral
