import Storyboard.Proofs.Json.Text
import Storyboard.Proofs.Number.Typed

/-!
# Texts of canvases

A preset is two positive numbers with a cross between them, each small enough for a coordinate, and
nothing else is one. Every canvas with such sides is chosen again by its own preset, and whatever a
selector and its fields hold, the canvas that they choose has positive sides.
-/

namespace Storyboard.Canvas

open Text

/-- The digits are those of a side: a positive number that a coordinate can be. -/
structure Side (s : List Char) (n : Int) : Prop where
  digits : Numeral.Digits s
  ne_nil : s ≠ []
  value : (ofDigits s : Int) = n
  pos : 1 ≤ n
  le : n ≤ 2147483647

/-- The text of two sides with a cross between them. -/
inductive Preset : List Char → Canvas → Prop
  | cross {w h : List Char} {x : Char} {c : Canvas} (hw : Side w c.width) (hx : x = 'x' ∨ x = 'X')
      (hh : Side h c.height) : Preset (w ++ x :: h) c

/-- Both sides of the canvas are positive numbers that a coordinate can be. -/
structure Usable (c : Canvas) : Prop where
  width : 1 ≤ c.width ∧ c.width ≤ 2147483647
  height : 1 ≤ c.height ∧ c.height ≤ 2147483647

variable {s rest w h d : List Char} {n : Int} {c : Canvas}

/-! ### Sides -/

/-- A side is read from all digits at the start of a text. -/
lemma spanSide_eq_some_iff : spanSide s = some (n, rest) ↔
    ∃ d, Numeral.Digits d ∧ d ≠ [] ∧ (∀ c ∈ rest.head?, c.isDigit = false) ∧ s = d ++ rest ∧
      (ofDigits d : Int) = n ∧ n ≤ 2147483647 := by
  have hdigits := Numeral.digits_spanDigits s
  have hhead := Numeral.head_spanDigits s
  have hsplit := spanDigits_append s
  constructor
  · intro h
    simp only [spanSide, Option.ite_none_left_eq_some, Option.ite_none_right_eq_some,
      Option.some.injEq, Prod.mk.injEq] at h
    obtain ⟨hne, hle, rfl, rfl⟩ := h
    exact ⟨_, hdigits, hne, hhead, hsplit.symm, rfl, hle⟩
  · rintro ⟨d, hd, hne, hrest, rfl, rfl, hle⟩
    simp only [spanSide, spanDigits_of_digits hd hrest, if_neg hne]
    exact if_pos hle

lemma Side.spanSide (hd : Side d n) (hrest : ∀ c ∈ rest.head?, c.isDigit = false) :
    spanSide (d ++ rest) = some (n, rest) :=
  spanSide_eq_some_iff.mpr ⟨d, hd.digits, hd.ne_nil, hrest, rfl, hd.value, hd.le⟩

lemma side_integerText (hpos : 1 ≤ n) (hle : n ≤ 2147483647) : Side (integerText n) n := by
  have htext : integerText n = digitsOf n.natAbs := if_neg (by omega)
  rw [htext]
  refine ⟨fun c hc => Json.digitsOf_isDigit hc, Json.digitsOf_ne_nil _, ?_, hpos, hle⟩
  rw [ofDigits_digitsOf]
  omega

/-- A field holds a side or nothing that counts. -/
lemma ofField?_eq_some_iff {s : String} : ofField? s = some n ↔ Side (trim s.toList) n := by
  constructor
  · intro h
    unfold ofField? at h
    split at h
    · rename_i n' hspan
      simp only [Option.ite_none_right_eq_some, Option.some.injEq] at h
      obtain ⟨hpos, rfl⟩ := h
      obtain ⟨d, hd, hne, -, hs, hvalue, hle⟩ := spanSide_eq_some_iff.mp hspan
      rw [hs, List.append_nil]
      exact ⟨hd, hne, hvalue, hpos, hle⟩
    · cases h
  · intro h
    have hspan : spanSide (trim s.toList ++ []) = some (n, []) := h.spanSide (by simp)
    rw [List.append_nil] at hspan
    simp only [ofField?, hspan]
    exact if_pos h.pos

/-! ### Presets -/

lemma spanSides_eq_some_iff : spanSides s = some (c, rest) ↔ ∃ x r, (x = 'x' ∨ x = 'X') ∧
    spanSide s = some (c.width, x :: r) ∧ spanSide r = some (c.height, rest) := by
  constructor
  · intro h
    obtain ⟨⟨width, r⟩, hwidth, h⟩ := Option.bind_eq_some_iff.mp h
    have hcross : ∀ r', ((spanSide r').bind fun p => some ((⟨width, p.1⟩ : Canvas), p.2))
        = some (c, rest) → width = c.width ∧ spanSide r' = some (c.height, rest) := by
      intro r' h
      obtain ⟨⟨height, r''⟩, hheight, h⟩ := Option.bind_eq_some_iff.mp h
      simp only [Option.some.injEq, Prod.mk.injEq] at h
      obtain ⟨rfl, rfl⟩ := h
      exact ⟨rfl, hheight⟩
    dsimp only at h
    split at h
    · obtain ⟨rfl, hheight⟩ := hcross _ h
      exact ⟨'x', _, .inl rfl, hwidth, hheight⟩
    · obtain ⟨rfl, hheight⟩ := hcross _ h
      exact ⟨'X', _, .inr rfl, hwidth, hheight⟩
    · cases h
  · rintro ⟨x, r, rfl | rfl, hwidth, hheight⟩
    · simp only [spanSides, hwidth, hheight, bind, Option.bind, pure]
    · simp only [spanSides, hwidth, hheight, bind, Option.bind, pure]

/-- What is read of a text is the canvas of which it is a preset. -/
lemma ofPreset?_eq_some_iff {s : String} : ofPreset? s = some c ↔ Preset (trim s.toList) c := by
  constructor
  · intro h
    unfold ofPreset? at h
    split at h
    · rename_i c' hspan
      simp only [Option.ite_none_right_eq_some, Option.some.injEq] at h
      obtain ⟨⟨hwidth, hheight⟩, rfl⟩ := h
      obtain ⟨x, r, hx, hw, hh⟩ := spanSides_eq_some_iff.mp hspan
      obtain ⟨d, hd, hne, -, hs, hvalue, hle⟩ := spanSide_eq_some_iff.mp hw
      obtain ⟨d', hd', hne', -, rfl, hvalue', hle'⟩ := spanSide_eq_some_iff.mp hh
      rw [hs, List.append_nil]
      exact .cross ⟨hd, hne, hvalue, hwidth, hle⟩ hx ⟨hd', hne', hvalue', hheight, hle'⟩
    · cases h
  · intro h
    generalize ht : trim s.toList = t at h
    cases h with
    | @cross w h x _ hw hx hh =>
      have hcross : ∀ y ∈ (x :: h).head?, y.isDigit = false := by
        rintro y ⟨⟩
        rcases hx with rfl | rfl <;> decide
      have hheight : spanSide (h ++ []) = some (c.height, []) := hh.spanSide (by simp)
      rw [List.append_nil] at hheight
      have hspan := spanSides_eq_some_iff.mpr ⟨x, h, hx, hw.spanSide hcross, hheight⟩
      simp only [ofPreset?, ht, hspan]
      exact if_pos ⟨hw.pos, hh.pos⟩

lemma isBlank_of_isDigit {c : Char} (h : c.isDigit = true) : isBlank c = false := by
  have hdigit : 48 ≤ c.toNat ∧ c.toNat ≤ 57 := by
    simpa [Char.isDigit, UInt32.le_iff_toNat_le] using h
  simp only [isBlank, Bool.or_eq_false_iff, Bool.and_eq_false_iff, beq_eq_false_iff_ne,
    decide_eq_false_iff_not]
  omega

lemma Usable.preset (hc : c.Usable) : Preset (trim c.presetName.toList) c := by
  have hw := side_integerText hc.width.1 hc.width.2
  have hh := side_integerText hc.height.1 hc.height.2
  have hnone : ∀ d ∈ integerText c.width ++ 'x' :: integerText c.height, isBlank d = false := by
    simp only [List.forall_mem_append, List.forall_mem_cons]
    exact ⟨fun d hd => isBlank_of_isDigit (hw.digits d hd), by decide,
      fun d hd => isBlank_of_isDigit (hh.digits d hd)⟩
  rw [presetName, String.toList_ofList, trim_of_none hnone]
  exact .cross hw (.inl rfl) hh

/-! ### Selectors -/

lemma presetName_ne_custom (c : Canvas) : c.presetName ≠ "custom" := by
  intro h
  have hmem : 'x' ∈ c.presetName.toList := by simp [presetName]
  rw [h] at hmem
  exact absurd hmem (by decide)

lemma ofSelector_presetName (hc : c.Usable) (width height : String) :
    ofSelector c.presetName width height = c := by
  rw [ofSelector, if_neg c.presetName_ne_custom, ofPreset?_eq_some_iff.mpr hc.preset,
    Option.getD_some]

lemma usable_default : ({} : Canvas).Usable :=
  ⟨by decide, by decide⟩

lemma Preset.usable (h : Preset s c) : c.Usable := by
  cases h with
  | cross hw hx hh => exact ⟨⟨hw.pos, hw.le⟩, hh.pos, hh.le⟩

/-- A field that counts for nothing leaves the usual side. -/
lemma ofField?_getD {s : String} {usual : Int} (h : 1 ≤ usual ∧ usual ≤ 2147483647) :
    1 ≤ (ofField? s).getD usual ∧ (ofField? s).getD usual ≤ 2147483647 := by
  cases hn : ofField? s with
  | none => exact h
  | some n =>
    have hside := ofField?_eq_some_iff.mp hn
    exact ⟨hside.pos, hside.le⟩

lemma usable_ofSelector (preset width height : String) :
    (ofSelector preset width height).Usable := by
  rw [ofSelector]
  split
  · exact ⟨ofField?_getD usable_default.width, ofField?_getD usable_default.height⟩
  · cases hc : ofPreset? preset with
    | none => exact usable_default
    | some c => exact (ofPreset?_eq_some_iff.mp hc).usable

/-- A text is read as a preset if and only if it is one, with blanks around it or not, and as the
canvas whose sides it has. A canvas with positive sides is chosen by its own preset whatever the
fields hold, and every choice gives a canvas with positive sides. -/
theorem preset_exact :
    (∀ (s : String) c, ofPreset? s = some c ↔ Preset (trim s.toList) c) ∧
    (∀ c : Canvas, c.Usable → ∀ width height, ofSelector c.presetName width height = c) ∧
    ∀ preset width height, (ofSelector preset width height).Usable := by
  refine ⟨fun s c => ofPreset?_eq_some_iff, ?_, usable_ofSelector⟩
  intro c hc width height
  exact ofSelector_presetName hc width height

/-- Zeros in front count for nothing, a number that only fits more bits gives no side, and a canvas
as high as there can be is chosen by its preset. -/
theorem preset_exact_zeros :
    let tall : Canvas := ⟨1, 2147483647⟩
    Preset (trim " 0001280X720\n".toList) {} ∧
      (∀ c, ¬ Preset (trim "4294968576x720".toList) c) ∧
      tall.Usable ∧ ofSelector "1x2147483647" "640" "" = tall ∧
      (ofSelector "custom" "0" "-5").Usable := by
  intro tall
  obtain ⟨hread, hname, hchoice⟩ := preset_exact
  have htall : tall.Usable := ⟨by decide, by decide⟩
  have hzeros : ofPreset? " 0001280X720\n" = some {} := by decide +kernel
  have hlong : ofPreset? "4294968576x720" = none := by decide +kernel
  refine ⟨(hread _ _).mp hzeros, ?_, htall, ?_, hchoice "custom" "0" "-5"⟩
  · intro c hc
    rw [← hread, hlong] at hc
    cases hc
  · have hpreset : tall.presetName = "1x2147483647" := by decide +kernel
    rw [← hpreset]
    exact hname tall htall "640" ""

end Storyboard.Canvas
