import Storyboard.Proofs.Json.Text
import Storyboard.Proofs.Number.Shortest

/-!
# Binary numbers in JSON texts

A decimal is written in full or with an exponent, and either way its text is one token that stands
for the number nearest to the decimal. Every finite number of double precision is written with its
shortest decimal, so it is read back from its text.
-/

namespace Storyboard.Json

open Text

/-! ### Digits -/

lemma ofDigits_append (ds es : List Char) :
    ofDigits (ds ++ es) = ofDigits ds * 10 ^ es.length + ofDigits es := by
  rw [ofDigits, Nat.ofDigitChars_append, Nat.ofDigitChars_eq_ofDigitChars_zero, Nat.mul_comm]
  rfl

lemma ofDigits_zeros (k : ℕ) : ofDigits (List.replicate k '0') = 0 := by
  simp [ofDigits, Nat.ofDigitChars_replicate_zero]

lemma isDigit_of_mem_zeros {k : ℕ} {c : Char} (h : c ∈ List.replicate k '0') :
    c.isDigit = true := by
  obtain rfl := List.eq_of_mem_replicate h
  rfl

/-- Only zero begins with a zero. -/
lemma digitsOf_head_ne {n : ℕ} (hn : n ≠ 0) : (digitsOf n).head? ≠ some '0' := by
  intro hhead
  obtain ⟨cs, hcs⟩ := List.head?_eq_some_iff.mp hhead
  cases cs with
  | nil =>
    have hvalue := ofDigits_digitsOf n
    rw [hcs] at hvalue
    exact hn hvalue.symm
  | cons d ds => exact digitsOf_ne_zero_cons n d ds hcs

/-! ### Literals -/

/-- The digits of a literal stand for the number nearest to any decimal of their value. -/
lemma floatNumber_eq {negative : Bool} {whole places : List Char} {e : ℤ} {d : Decimal}
    (h : (⟨ofDigits (whole ++ places), e - places.length⟩ : Decimal).value = d.value) :
    floatNumber negative whole places e = integerNumber.finite (d.nearest .double negative) := by
  rw [floatNumber, Decimal.nearest_congr .double negative h]

/-- What a literal has after the letter of its exponent. -/
def exponentText (e : ℤ) : List Char :=
  (if e < 0 then '-' else '+') :: digitsOf e.natAbs

lemma exponentToken_exponentText (negative : Bool) (whole places : List Char) (e : ℤ)
    {rest : List Char} (hr : Delimited rest) :
    exponentToken negative whole places (exponentText e ++ rest)
      = (.scalar (.number (floatNumber negative whole places e)), rest) := by
  have hsign : spanSign (exponentText e ++ rest) = (decide (e < 0), digitsOf e.natAbs ++ rest) := by
    by_cases he : e < 0 <;> simp [exponentText, he, spanSign]
  have hspan : spanDigits (digitsOf e.natAbs ++ rest) = (digitsOf e.natAbs, rest) :=
    spanDigits_of_delimited (fun c hc => digitsOf_isDigit hc) hr
  have hvalue : (if decide (e < 0) = true then -(e.natAbs : ℤ) else (e.natAbs : ℤ)) = e := by
    split
    · rename_i h
      have := of_decide_eq_true h
      omega
    · rename_i h
      have := of_decide_eq_false (Bool.not_eq_true _ ▸ h)
      omega
  simp only [exponentToken, hsign, hspan]
  split
  · rename_i h
    exact absurd (congrArg Prod.fst h) (digitsOf_ne_nil _)
  · rename_i digits rest' _ h
    obtain ⟨rfl, rfl⟩ := Prod.mk.inj h
    rw [ofDigits_digitsOf, hvalue]

/-- A digit, perhaps with places after it, and an exponent are one token. -/
lemma numberToken_exponent (negative : Bool) {c : Char} (hc : c.isDigit = true)
    {places : List Char} (hp : ∀ c ∈ places, c.isDigit = true) (e : ℤ) {rest : List Char}
    (hr : Delimited rest) :
    numberToken negative
        (c :: (if places = [] then [] else '.' :: places) ++ 'e' :: (exponentText e ++ rest))
      = (.scalar (.number (floatNumber negative [c] places e)), rest) := by
  have hexponent : ∀ places, exponentToken negative [c] places (exponentText e ++ rest)
      = (.scalar (.number (floatNumber negative [c] places e)), rest) :=
    fun places => exponentToken_exponentText negative [c] places e hr
  by_cases hnil : places = []
  · subst hnil
    have hspan : spanDigits (c :: 'e' :: (exponentText e ++ rest))
        = ([c], 'e' :: (exponentText e ++ rest)) := by
      simp [spanDigits, hc]
    simp only [if_true, List.singleton_append, numberToken, hspan, hexponent]
  · have hspan : spanDigits (c :: '.' :: (places ++ 'e' :: (exponentText e ++ rest)))
        = ([c], '.' :: (places ++ 'e' :: (exponentText e ++ rest))) := by
      simp [spanDigits, hc]
    have hspan' : spanDigits (places ++ 'e' :: (exponentText e ++ rest))
        = (places, 'e' :: (exponentText e ++ rest)) :=
      spanDigits_of_digits hp (by rintro c ⟨⟩; decide)
    simp only [if_neg hnil, List.cons_append, numberToken, hspan, hspan', hexponent]

/-! ### Decimals -/

/-- A text begins with digits, and together with what follows them it is one token for the number
nearest to a decimal. -/
def Literal (d : Decimal) (s : List Char) : Prop :=
  ∃ whole tail, s = whole ++ tail ∧ whole ≠ [] ∧ (∀ c ∈ whole, c.isDigit = true) ∧
    ∀ negative rest, Delimited rest → numberToken negative (whole ++ (tail ++ rest))
      = (.scalar (.number (integerNumber.finite (d.nearest .double negative))), rest)

lemma literal_places {d : Decimal} {whole places : List Char} (hne : whole ≠ [])
    (hz : whole.length = 1 ∨ whole.head? ≠ some '0') (hw : ∀ c ∈ whole, c.isDigit = true)
    (hne' : places ≠ []) (hp : ∀ c ∈ places, c.isDigit = true)
    (hvalue : (⟨ofDigits (whole ++ places), 0 - places.length⟩ : Decimal).value = d.value) :
    Literal d (whole ++ '.' :: places) := by
  refine ⟨whole, '.' :: places, rfl, hne, hw, fun negative rest hr => ?_⟩
  rw [List.cons_append, numberToken_places negative hne hz hw hne' hp hr, floatNumber_eq hvalue]

variable {d : Decimal}

/-- A decimal that is written in full is a literal. -/
lemma literal_plainText (hd : d.units = 0 → d.exponent = 0) :
    Literal d (Numeral.plainText true d) := by
  have hdigit : ∀ c ∈ digitsOf d.units, c.isDigit = true := fun c hc => digitsOf_isDigit hc
  have hne := digitsOf_ne_nil d.units
  obtain ⟨units, exponent⟩ := d
  rcases exponent with k | k
  · -- Zeros fill the whole number up, and one more stands after the point.
    have hz : (digitsOf units ++ List.replicate k '0').length = 1 ∨
        (digitsOf units ++ List.replicate k '0').head? ≠ some '0' := by
      by_cases hunits : units = 0
      · obtain rfl : k = 0 := by simpa using hd hunits
        subst hunits
        exact .inl rfl
      · rw [List.head?_append_of_ne_nil _ hne]
        exact .inr (digitsOf_head_ne hunits)
    have hzeros : ∀ c ∈ digitsOf units ++ List.replicate k '0', c.isDigit = true := by
      intro c hc
      exact (List.mem_append.mp hc).elim (hdigit c) isDigit_of_mem_zeros
    have hvalue : (⟨ofDigits ((digitsOf units ++ List.replicate k '0') ++ ['0']),
        0 - (['0'] : List Char).length⟩ : Decimal).value = (⟨units, k⟩ : Decimal).value := by
      have hone : ofDigits ['0'] = 0 := rfl
      rw [ofDigits_append, ofDigits_append, ofDigits_digitsOf, ofDigits_zeros, hone]
      simp only [Decimal.value, List.length_replicate, List.length_singleton, zpow_natCast]
      push_cast
      ring
    simpa [Numeral.plainText] using literal_places (by simp [hne]) hz hzeros (by simp)
      (by simp) hvalue
  · have hunits : units ≠ 0 := fun h => absurd (hd h) (by simp)
    by_cases hw : (digitsOf units).length - (k + 1) = 0
    · -- All digits stand after the point, with zeros between.
      have hplaces : ∀ c ∈ List.replicate (k + 1 - (digitsOf units).length) '0' ++ digitsOf units,
          c.isDigit = true := by
        intro c hc
        exact (List.mem_append.mp hc).elim isDigit_of_mem_zeros (hdigit c)
      have hlength : (List.replicate (k + 1 - (digitsOf units).length) '0'
          ++ digitsOf units).length = k + 1 := by
        rw [List.length_append, List.length_replicate]
        omega
      have hvalue : ofDigits (['0'] ++ (List.replicate (k + 1 - (digitsOf units).length) '0'
          ++ digitsOf units)) = units := by
        have hone : ofDigits ['0'] = 0 := rfl
        rw [ofDigits_append, ofDigits_append, ofDigits_digitsOf, ofDigits_zeros, hone]
        simp
      simp only [Numeral.plainText, hw, if_true]
      refine @literal_places _ ['0'] _ (by simp) (.inl rfl) (by simp) (by simp [hne]) hplaces ?_
      rw [hvalue, hlength]
      rfl
    · have hlength : ((digitsOf units).drop ((digitsOf units).length - (k + 1))).length
          = k + 1 := by
        rw [List.length_drop]
        omega
      simp only [Numeral.plainText, hw, if_false]
      refine literal_places ?_ (.inr ?_) (fun c hc => hdigit c (List.mem_of_mem_take hc)) ?_
        (fun c hc => hdigit c (List.mem_of_mem_drop hc)) ?_
      · simpa [hne] using hw
      · rw [List.head?_take, if_neg hw]
        exact digitsOf_head_ne hunits
      · exact List.ne_nil_of_length_pos (by omega)
      · rw [List.take_append_drop, ofDigits_digitsOf, hlength]
        rfl

/-- A decimal that is written with an exponent is a literal. -/
lemma literal_scientificText (d : Decimal) : Literal d (Numeral.scientificText d) := by
  obtain ⟨c, cs, hcs⟩ := List.exists_cons_of_ne_nil (digitsOf_ne_nil d.units)
  have hdigit : ∀ x ∈ c :: cs, x.isDigit = true := fun x hx => digitsOf_isDigit (hcs ▸ hx)
  have htext : Numeral.scientificText d = [c] ++ ((if cs = [] then [] else '.' :: cs)
      ++ 'e' :: exponentText (Numeral.leadingExponent d)) := by
    cases cs <;> simp [Numeral.scientificText, hcs, exponentText]
  have hvalue : (⟨ofDigits ([c] ++ cs), Numeral.leadingExponent d - cs.length⟩ : Decimal) = d := by
    have hunits : ofDigits ([c] ++ cs) = d.units := by
      rw [List.singleton_append, ← hcs, ofDigits_digitsOf]
    have hexponent : Numeral.leadingExponent d - cs.length = d.exponent := by
      rw [Numeral.leadingExponent, hcs, List.length_cons]
      omega
    rw [hunits, hexponent]
  have hc : ∀ x ∈ [c], x.isDigit = true := by simpa using hdigit c List.mem_cons_self
  refine ⟨[c], _, htext, List.cons_ne_nil _ _, hc, fun negative rest hr => ?_⟩
  have htoken := numberToken_exponent negative (hdigit c List.mem_cons_self)
    (fun x hx => hdigit x (List.mem_cons_of_mem c hx)) (Numeral.leadingExponent d) hr
  rw [floatNumber_eq (congrArg Decimal.value hvalue)] at htoken
  rw [← htoken]
  simp only [List.append_assoc, List.cons_append, List.nil_append]

lemma literal_decimalText (hd : d.units = 0 → d.exponent = 0) : Literal d (decimalText d) := by
  rw [decimalText]
  split
  · exact literal_plainText hd
  · exact literal_scientificText d

/-! ### Finite numbers -/

/-- A text that begins with a digit begins with a number. -/
lemma tokens_digits {whole : List Char} (hne : whole ≠ [])
    (hw : ∀ c ∈ whole, c.isDigit = true) (s : List Char) :
    tokens (whole ++ s) = (numberToken false (whole ++ s)).1 ::
      tokens (numberToken false (whole ++ s)).2 := by
  obtain ⟨c, cs, rfl⟩ := List.exists_cons_of_ne_nil hne
  have hc : c.isDigit = true := hw c List.mem_cons_self
  rw [List.cons_append, tokens_cons (isSpace_of_isDigit hc), lexeme_of_isDigit hc]

/-- Every finite number is read back from its text. -/
theorem readsBack_float {x : Double} (h : x.isFinite = true) : (Number.float x).ReadsBack := by
  have hnearest := Binary.nearest_shortest h .even
  obtain ⟨whole, tail, htext, hne, hw, htoken⟩ := literal_decimalText
    (d := x.shortest .even) fun hunits => by rw [Binary.shortest_of_units_eq_zero h hunits]
  have hnumber : integerNumber.finite ((x.shortest .even).nearest .double x.negative)
      = some (.float x) := by
    rw [hnearest, integerNumber.finite, if_pos h]
  intro rest hr
  have hlex := htoken x.negative rest hr
  rw [hnumber] at hlex
  simp only [Number.chars, if_pos h, htext]
  cases hnegative : x.negative with
  | true =>
    rw [hnegative] at hlex
    rw [Numeral.signed, if_pos rfl, List.cons_append, tokens_cons (by decide), List.append_assoc]
    simp only [lexeme, hlex]
  | false =>
    rw [hnegative] at hlex
    rw [Numeral.signed, if_neg (by decide), List.append_assoc, tokens_digits hne hw, hlex]

end Storyboard.Json
