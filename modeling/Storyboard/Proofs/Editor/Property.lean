import Storyboard.Proofs.Color
import Storyboard.Proofs.Editor.Call
import Storyboard.Proofs.Number.Typed
import Storyboard.Proofs.Session.Independence

/-!
# Values that denote none

A property of an element has its own notation, and a value outside of it is refused, except for a
background: there it is taken for the wish to have none, and the one that was there is gone. The
word for what is no number passes for a number too.
-/

namespace Storyboard.Editor

open Text

/-! ### Notations -/

/-- The text denotes a value of the property. -/
def Denotes (key value : String) : Prop :=
  ((key = "color" ∨ key = "bgColor") ∧ Color.Written (trim value.toList)) ∨
    (key = "font" ∧ ∃ c : FontCategory, c.name = value) ∨
    (key = "opacity" ∧ Numeral.Written (trim value.toList))

variable {ed : Editor} {key value : String} {i : ElementId} {e : Element}

lemma denotes_color_iff (hkey : key = "color" ∨ key = "bgColor") :
    Denotes key value ↔ (Color.ofHex? value).isSome = true := by
  rcases hkey with rfl | rfl <;> simp [Denotes, Color.isSome_ofHex?_iff]

lemma denotes_font_iff : Denotes "font" value ↔ (FontCategory.ofName? value).isSome = true := by
  have hname : (∃ c : FontCategory, c.name = value)
      ↔ (FontCategory.ofName? value).isSome = true := by
    rw [FontCategory.ofName?, List.find?_isSome]
    constructor
    · rintro ⟨c, rfl⟩
      exact ⟨c, by cases c <;> decide, by simp⟩
    · rintro ⟨c, -, hc⟩
      exact ⟨c, by simpa using hc⟩
  simp [Denotes, hname]

lemma denotes_opacity_iff : Denotes "opacity" value ↔ Numeral.Written (trim value.toList) := by
  simp [Denotes]

/-! ### Edits of properties -/

lemma isSome_propertyEdit_iff (hkey : key ∈ ["color", "bgColor", "font", "opacity"]) :
    (propertyEdit key value).isSome = true ↔ Denotes key value ∨ key = "bgColor" ∨
      key = "opacity" ∧ Numeral.NoNumber (trim value.toList) := by
  simp only [List.mem_cons, List.not_mem_nil, or_false] at hkey
  rcases hkey with rfl | rfl | rfl | rfl
  · simp [propertyEdit, denotes_color_iff]
  · simp [propertyEdit]
  · simp [propertyEdit, denotes_font_iff]
  · simp [propertyEdit, Numeral.isSome_typed?_iff, denotes_opacity_iff]

lemma act_edit (hi : i ∈ ed.session.live.map (·.id)) (edit : Edit) :
    ed.act (.edit i edit) = (true, { ed with session := ed.session.edited i edit }) := by
  simp only [act, Session.perform, Session.edit_of_mem hi]
  rfl

/-- A live element gets the property if and only if there is an edit that gives it. -/
lemma setProperty_fst_iff (he : e ∈ ed.session.live) :
    (ed.setProperty e.id.text key value).1 = true ↔ (propertyEdit key value).isSome = true := by
  cases hedit : propertyEdit key value with
  | none => simp [setProperty, tryEdit, hedit]
  | some edit =>
    simp only [setProperty, tryEdit, hedit, act_edit (List.mem_map_of_mem he), Option.isSome_some]

lemma setProperty_of_none (h : propertyEdit key value = none) (id : String) :
    ed.setProperty id key value = (false, ed) := by
  simp only [setProperty, tryEdit, h]

/-- A background that is taken away is gone, unless there cannot be one. -/
lemma apply_background_none {s : Session} {n : Nat} {admits : Action → Prop}
    (hs : Session.Reachable admits s n) (he : e ∈ s.live) :
    (Edit.background none).apply s.editContext e
      = if e.kind.isMenu = true ∨ e.kind = .label then e
        else { e with style.background := none } := by
  cases hm : e.kind.isMenu with
  | true =>
    rw [if_pos (.inl rfl)]
    exact (hs.canonicalMenu e (.inl he) hm).apply_eq hm s.editContext _
  | false =>
    have heffect := hs.edit_effect (.inl he) hm (.background none)
    generalize (Edit.background none).apply s.editContext e = e' at heffect
    cases heffect with
    | background c hk => simp [hk]
    | labelBackground c hk => simp [hk]

/-- A background that denotes no color is taken away. -/
lemma setProperty_background (hed : Reachable ed) (hvalue : Color.ofHex? value = none) {k : Nat}
    (hk : ed.session.live[k]? = some e) :
    ed.setProperty e.id.text "bgColor" value = (true, { ed with
      session.live := ed.session.live.set k <|
        if e.kind.isMenu = true ∨ e.kind = .label then e
        else { e with style.background := none } }) := by
  have he : e ∈ ed.session.live := List.mem_of_getElem? hk
  have hact := act_edit (List.mem_map_of_mem he) (.background none)
  rw [Session.edited_eq_set hed.session.nodup_live hk, apply_background_none hed.session he] at hact
  have hedit : propertyEdit "bgColor" value = some (.background none) := by
    simp [propertyEdit, hvalue]
  rw [setProperty, hedit]
  exact hact

/-- A live element gets a color, a font or an opacity if and only if the text denotes one; other
texts leave the editor as it was. But every text sets a background: what denotes no color takes
the background of the element away, and of nothing else. The word for what is no number sets an
opacity of zero. -/
theorem setProperty_iff_denotes (hed : Reachable ed)
    (hkey : key ∈ ["color", "bgColor", "font", "opacity"]) :
    let named := key = "opacity" ∧ Numeral.NoNumber (trim value.toList)
    (∀ e ∈ ed.session.live, (ed.setProperty e.id.text key value).1 = true ↔
      Denotes key value ∨ key = "bgColor" ∨ named) ∧
    (¬ Denotes key value → key ≠ "bgColor" → ¬ named → ∀ id,
      ed.setProperty id key value = (false, ed)) ∧
    (¬ Denotes key value → key = "bgColor" → ∀ (k : Nat) e, ed.session.live[k]? = some e →
      ed.setProperty e.id.text key value = (true, { ed with
        session.live := ed.session.live.set k <|
          if e.kind.isMenu = true ∨ e.kind = .label then e
          else { e with style.background := none } })) ∧
    (named → ∀ id, ed.setProperty id key value = ed.setProperty id key "0") := by
  intro named
  refine ⟨fun e he => ?_, fun hvalue hbackground hnamed id => ?_, ?_, ?_⟩
  · rw [setProperty_fst_iff he, isSome_propertyEdit_iff hkey]
  · refine setProperty_of_none (Option.not_isSome_iff_eq_none.mp ?_) id
    rw [isSome_propertyEdit_iff hkey]
    exact fun h => h.elim hvalue fun h => h.elim hbackground hnamed
  · rintro hvalue rfl k e hk
    rw [denotes_color_iff (.inr rfl), Option.not_isSome_iff_eq_none] at hvalue
    exact setProperty_background hed hvalue hk
  · rintro ⟨rfl, hname⟩ id
    have hname : propertyEdit "opacity" value = some (.opacity 0) := by
      simp [propertyEdit, Numeral.typed?_of_noNumber hname]
    have hzero : propertyEdit "opacity" "0" = some (.opacity 0) := by decide +kernel
    rw [setProperty, setProperty, hname, hzero]

/-- A word is refused as the color, the font and the opacity of a button, but as its background it
takes the white one away; and what is no number, whatever its sign, sets an opacity of zero. -/
theorem setProperty_iff_denotes_word :
    let ed := (new.call (.createElement "button" ⟨10, 20⟩)).2
    let button := new.session.newElement new.next (.ofTag "button") ⟨10, 20⟩
    Reachable ed ∧ ed.session.live[1]? = some button ∧
      (∀ key ∈ ["color", "font", "opacity"], ¬ Denotes key "red" ∧
        ed.setProperty "button_1" key "red" = (false, ed)) ∧
      ed.setProperty "button_1" "bgColor" "red" = (true, { ed with
        session.live := ed.session.live.set 1 { button with style.background := none } }) ∧
      ed.setProperty "button_1" "opacity" "-NaN" = ed.setProperty "button_1" "opacity" "0" := by
  intro ed button
  have hed : Reachable ed := (Reachable.start 0).call _
  have hbutton : ed.session.live[1]? = some button := by decide +kernel
  have hcolor : ¬(Color.ofHex? "red").isSome = true := by decide +kernel
  have hnumber : ¬(Numeral.typed? "red".toList).isSome = true := by decide +kernel
  rw [Numeral.isSome_typed?_iff, not_or, ← denotes_opacity_iff] at hnumber
  refine ⟨hed, hbutton, fun key hkey => ?_, ?_, ?_⟩
  · have hvalue : ¬ Denotes key "red" := by
      simp only [List.mem_cons, List.not_mem_nil, or_false] at hkey
      rcases hkey with rfl | rfl | rfl
      · rwa [denotes_color_iff (.inl rfl)]
      · rw [denotes_font_iff]
        decide +kernel
      · exact hnumber.1
    have hbackground : key ≠ "bgColor" := by
      rintro rfl
      exact absurd hkey (by decide)
    have hkeys : key ∈ ["color", "bgColor", "font", "opacity"] := by
      simp only [List.mem_cons, List.not_mem_nil, or_false] at hkey ⊢
      tauto
    exact ⟨hvalue, (setProperty_iff_denotes hed hkeys).2.1 hvalue hbackground
      (fun hnamed => hnumber.2 hnamed.2) "button_1"⟩
  · have hvalue : ¬ Denotes "bgColor" "red" := by rwa [denotes_color_iff (.inr rfl)]
    exact (setProperty_iff_denotes hed (by decide)).2.2.1 hvalue rfl 1 button hbutton
  · have hname : Numeral.NoNumber (trim "-NaN".toList) :=
      @Numeral.NoNumber.nan ['-'] "NaN".toList .minus (by decide)
    exact (setProperty_iff_denotes hed (by decide)).2.2.2 ⟨rfl, hname⟩ "button_1"

/-- A word for a color takes the background of a button away, and the editor reports that it was
set. -/
theorem background_lost_by_word :
    let ed := (new.call (.createElement "button" ⟨10, 20⟩)).2
    let after := ed.setProperty "button_1" "bgColor" "red"
    Reachable ed ∧ ¬ Denotes "bgColor" "red" ∧ after.1 = true ∧
      ed.session.live.map (·.style.background) = [none, some .white] ∧
      after.2.session.live.map (·.style.background) = [none, none] := by
  refine ⟨(Reachable.start 0).call _, ?_, by decide +kernel, by decide +kernel, by decide +kernel⟩
  rw [denotes_color_iff (.inr rfl)]
  decide +kernel

end Storyboard.Editor
