import Storyboard.Proofs.Document.Opacity
import Storyboard.Proofs.Document.Settings
import Storyboard.Proofs.Document.ElementEntry
import Storyboard.Proofs.Element.Basic

/-!
# Elements of documents

An entry gives an element in one of two ways, as a menu or as anything else, and each is said
once here. From the entry that an element writes its kind, its trigger and its text come back
whatever the element is; the rest comes back when the element is such as a document gives.
-/

namespace Storyboard

open Json Document

/-! ### The element of an entry -/

namespace ElementEntry

variable (canvas : Canvas) (fonts : FontSizes) (n : Nat) {e : ElementEntry}

lemma percent_le (x : Double) : percent x ≤ 100 := by
  simp only [percent, Binary.roundWithin, Binary.clip]
  omega

lemma opacity_toStyle_le (kind : Kind) (e : ElementEntry) : (e.toStyle kind).opacity ≤ 100 := by
  simp only [toStyle]
  cases e.opacity with
  | none => exact Nat.le_refl _
  | some x => exact percent_le x

/-- The entry of a menu gives its height and nothing else. -/
lemma toElement_of_menu (h : e.toKind.isMenu = true) :
    e.toElement canvas fonts n = { id := .numbered "menu" n, kind := .menu,
                                   position := ⟨0, canvas.height - e.toMenuHeight⟩
                                   size := .px canvas.width e.toMenuHeight, text := ""
                                   style := {}, trigger := none } := by
  have hkind := Kind.isMenu_iff.mp h
  simp only [toElement, hkind]
  rfl

/-- The entry of anything else gives each property of its own. -/
lemma toElement_of_not_menu (h : e.toKind.isMenu = false) :
    e.toElement canvas fonts n =
      { id := .numbered e.toKind.tag n, kind := e.toKind, position := ⟨e.x, e.y⟩
        size := e.toSize canvas fonts e.toKind (e.toLabel e.toKind) (e.toStyle e.toKind)
        text := e.toLabel e.toKind, style := e.toStyle e.toKind, trigger := e.toTrigger } := by
  have hlabel : e.toKind = .label → (e.toStyle e.toKind).background = none := by
    intro hk
    simp [toStyle, hk, Kind.hasBackground]
  simp only [toElement, Element.create, h, Bool.false_eq_true, if_false, Element.conform_id,
    Element.conform_kind, Element.conform_position]
  exact Element.conform_eq h hlabel (opacity_toStyle_le _ e)

/-! ### Parts of an entry -/

/-- What the entry says apart from a trigger and the data of a kind. -/
def look (e : ElementEntry) : ElementEntry :=
  { kind := e.kind, x := e.x, y := e.y, width := e.width, height := e.height, color := e.color
    background := e.background, font := e.font, opacity := e.opacity, text := e.text }

variable (e : ElementEntry) (t : Trigger) (k : Kind)

@[simp] lemma look_writeTo_trigger : (t.writeTo e).look = e.look := by
  cases t <;> rfl

@[simp] lemma look_writeTo_kind : (k.writeTo e).look = e.look := by
  cases k <;> rfl

@[simp] lemma reread_writeTo_trigger : (t.writeTo e).reread = t.writeTo e.reread := by
  cases t <;> rfl

@[simp] lemma reread_writeTo_kind : (k.writeTo e).reread = k.writeTo e.reread := by
  cases k <;> rfl

/-- A trigger comes back from its fields. -/
@[simp] lemma toTrigger_writeTo_trigger : (t.writeTo e).toTrigger = some t := by
  cases t <;> rfl

@[simp] lemma toTrigger_writeTo_kind : (k.writeTo e).toTrigger = e.toTrigger := by
  cases k <;> rfl

/-- A kind comes back from its tag and its data. -/
lemma toKind_writeTo_kind {e : ElementEntry} (h : Kind.ofTag e.kind = k.bare) :
    (k.writeTo e).toKind = k.settled := by
  cases k <;> simp [Kind.writeTo, toKind, h, Kind.bare, Kind.settled]

end ElementEntry

/-! ### The entry of an element -/

namespace Element

variable (e : Element)

/-- The entry of an element that is no menu, without its trigger and the data of its kind. -/
def styledEntry : ElementEntry where
  kind := e.kind.tag
  x := e.position.x
  y := e.position.y
  width := some e.size.width
  height := some e.size.height
  color := e.style.color.map Color.toHex
  background := if e.kind.hasBackground then e.style.background.map Color.toHex else none
  font := e.style.font.map FontCategory.name
  opacity := some (opacityFraction e.style.opacity)
  text := if e.kind.hasText then some e.text else none

variable {e}

lemma toEntry_of_menu (h : e.kind.isMenu = true) :
    e.toEntry = { kind := e.kind.tag, x := e.position.x, y := e.position.y
                  height := some e.size.height } := by
  simp only [toEntry, h, if_true]

lemma toEntry_of_not_menu (h : e.kind.isMenu = false) :
    e.toEntry = e.kind.writeTo (e.trigger.elim e.styledEntry (·.writeTo e.styledEntry)) := by
  simp only [toEntry, h, Bool.false_eq_true, if_false]
  rfl

lemma look_reread_toEntry (h : e.kind.isMenu = false) :
    e.toEntry.reread.look = e.styledEntry.reread := by
  rw [toEntry_of_not_menu h]
  cases e.trigger <;> simp <;> rfl

@[simp] lemma kind_toEntry : e.toEntry.kind = e.kind.tag := by
  cases h : e.kind.isMenu with
  | true => rw [toEntry_of_menu h]
  | false =>
    have hlook : e.toEntry.reread.look.kind = e.kind.tag := by rw [look_reread_toEntry h]; rfl
    exact hlook

/-- The kind comes back from what an element writes. -/
lemma toKind_reread_toEntry (h : e.kind.Tagged) : e.toEntry.reread.toKind = e.kind.settled := by
  cases hm : e.kind.isMenu with
  | true =>
    rw [toEntry_of_menu hm, Kind.isMenu_iff.mp hm]
    rfl
  | false =>
    rw [toEntry_of_not_menu hm, ElementEntry.reread_writeTo_kind]
    refine ElementEntry.toKind_writeTo_kind _ ?_
    have hkind : (e.trigger.elim e.styledEntry (·.writeTo e.styledEntry)).reread.kind
        = e.kind.tag := by
      rcases e.trigger with _ | t
      · rfl
      · cases t <;> rfl
    rw [hkind, h.regular]

/-- The trigger comes back from what an element writes. -/
lemma toTrigger_reread_toEntry (h : e.kind.isMenu = true → e.trigger = none) :
    e.toEntry.reread.toTrigger = e.trigger := by
  cases hm : e.kind.isMenu with
  | true =>
    rw [toEntry_of_menu hm, h hm]
    rfl
  | false =>
    rw [toEntry_of_not_menu hm]
    cases e.trigger with
    | none => simp; rfl
    | some t => simp

/-- A text that is shown comes back from what an element writes. -/
lemma toLabel_reread_toEntry (h : e.kind.hasText = true) :
    e.toEntry.reread.toLabel e.kind.settled = e.text := by
  have hm : e.kind.isMenu = false := by
    cases hk : e.kind <;> simp_all [Kind.hasText, Kind.isMenu]
  have htext : e.toEntry.reread.text = some e.text := by
    have hlook : e.toEntry.reread.look.text = some e.text := by
      rw [look_reread_toEntry hm]
      exact if_pos h
    exact hlook
  rw [ElementEntry.toLabel, Kind.hasText_settled, if_pos h, htext, Option.getD_some]

end Element

/-! ### Legible elements -/

/-- Every coordinate and every side of the element is small enough for a text to keep it. -/
structure Element.Legible (e : Element) : Prop where
  x : fits64 e.position.x = true
  y : fits64 e.position.y = true
  width : ∀ n, e.size.width = .px n → fits64 n = true
  height : ∀ n, e.size.height = .px n → fits64 n = true

/-- A legible element writes a legible entry. -/
lemma Element.Legible.toEntry {e : Element} (h : e.Legible) : e.toEntry.Legible := by
  cases hm : e.kind.isMenu with
  | true =>
    rw [toEntry_of_menu hm]
    exact ⟨h.x, h.y, by simp, fun n hn => h.height n (Option.some.inj hn), by simp⟩
  | false =>
    have hstyled : e.styledEntry.Legible := by
      refine ⟨h.x, h.y, fun n hn => h.width n (Option.some.inj hn),
        fun n hn => h.height n (Option.some.inj hn), fun x hx => ?_⟩
      obtain rfl := Option.some.inj hx
      exact opacityFraction_readsBack _
    have htrigger (t : Trigger) {b : ElementEntry} (hb : b.Legible) : (t.writeTo b).Legible := by
      cases t <;> exact ⟨hb.x, hb.y, hb.width, hb.height, hb.opacity⟩
    have hkind (k : Kind) {b : ElementEntry} (hb : b.Legible) : (k.writeTo b).Legible := by
      cases k <;> exact ⟨hb.x, hb.y, hb.width, hb.height, hb.opacity⟩
    rw [toEntry_of_not_menu hm]
    refine hkind _ ?_
    cases e.trigger with
    | none => exact hstyled
    | some t => exact htrigger t hstyled

/-! ### Canonical elements -/

/-- An element other than a menu, as a document gives it. -/
structure Element.CanonicalItem (e : Element) : Prop where
  size : ∃ w h, 0 < w ∧ 0 < h ∧ e.size = .px w h
  color : e.style.color.isSome = true
  background : e.style.background.isSome = true ↔ e.kind = .button
  font : e.style.font.isSome = true
  opacity : e.style.opacity ≤ 100
  text : ∀ source, e.kind = .image source → e.text = ""

/-- A menu as a document gives it: at the bottom of the canvas over its full width. -/
structure Element.CanonicalMenu (canvas : Canvas) (e : Element) : Prop where
  text : e.text = ""
  style : e.style = {}
  trigger : e.trigger = none
  x : e.position.x = 0
  size : ∃ h, 0 < h ∧ e.size = .px canvas.width h ∧ e.position.y = canvas.height - h

/-- An element as a document gives it for a canvas. -/
structure Element.Canonical (canvas : Canvas) (e : Element) : Prop where
  tagged : e.kind.Tagged
  source : e.kind ≠ .image (some "")
  item : e.kind.isMenu = false → e.CanonicalItem
  menu : e.kind.isMenu = true → e.CanonicalMenu canvas

/-- Every coordinate and every side of the element is in range. -/
structure Element.InRange (e : Element) : Prop where
  x : Storyboard.InRange e.position.x
  y : Storyboard.InRange e.position.y
  width : ∀ n, e.size.width = .px n → Storyboard.InRange n
  height : ∀ n, e.size.height = .px n → Storyboard.InRange n

lemma Dimension.px?_eq_some {d : Dimension} {n : Int} : d.px? = some n ↔ d = .px n := by
  cases d <;> simp [px?]

instance (e : Element) : Decidable e.InRange :=
  decidable_of_iff (Storyboard.InRange e.position.x ∧ Storyboard.InRange e.position.y ∧
      (∀ n ∈ e.size.width.px?, Storyboard.InRange n) ∧
      ∀ n ∈ e.size.height.px?, Storyboard.InRange n)
    ⟨fun ⟨hx, hy, hw, hh⟩ => ⟨hx, hy, fun n hn => hw n (Dimension.px?_eq_some.mpr hn),
        fun n hn => hh n (Dimension.px?_eq_some.mpr hn)⟩,
      fun h => ⟨h.x, h.y, fun n hn => h.width n (Dimension.px?_eq_some.mp hn),
        fun n hn => h.height n (Dimension.px?_eq_some.mp hn)⟩⟩

lemma Element.InRange.legible {e : Element} (h : e.InRange) : e.Legible :=
  ⟨h.x.fits64, h.y.fits64, fun n hn => (h.width n hn).fits64, fun n hn => (h.height n hn).fits64⟩

namespace ElementEntry

variable {canvas : Canvas} {fonts : FontSizes} {n : Nat} {e : ElementEntry}

lemma bare_toKind (e : ElementEntry) : e.toKind.bare = Kind.ofTag e.kind := by
  rw [← Kind.bare_ofTag]
  unfold toKind
  cases Kind.ofTag e.kind <;> rfl

lemma tagged_toKind (h : e.kind ≠ "") : e.toKind.Tagged :=
  ⟨e.kind, h, e.bare_toKind.symm⟩

lemma toKind_ne : e.toKind ≠ .image (some "") := by
  unfold toKind
  split
  · exact Kind.settled_ne (.image e.image)
  · exact Kind.noConfusion
  · exact Kind.noConfusion
  · rename_i h _ _
    exact fun hk => h _ hk

lemma side_pos {kind : Kind} {given : Option Dimension} {measured fallback : Int}
    {usual : Dimension} (hm : 0 < measured) (hu : 0 < usual.getD fallback) :
    0 < side kind given measured usual fallback := by
  unfold side
  split
  · split
    · assumption
    · exact hu
  · split
    · exact hm
    · exact hu
  · exact hu

lemma textExtent_pos (chars px : Nat) :
    0 < (textExtent chars px).1 ∧ 0 < (textExtent chars px).2 := by
  simp only [textExtent]
  omega

/-- Both sides of an element other than a menu are positive. -/
lemma toSize_pos {kind : Kind} {text : String} {style : Style} (h : kind.isMenu = false) :
    ∃ w h, 0 < w ∧ 0 < h ∧ e.toSize canvas fonts kind text style = .px w h := by
  have hm := textExtent_pos (Element.sample kind text).length (fonts.px (style.font.getD .fallback))
  have hu : 0 < (kind.defaultSize canvas).width.getD fallbackWidth ∧
      0 < (kind.defaultSize canvas).height.getD fallbackHeight := by
    cases kind
    case menu => simp [Kind.isMenu] at h
    all_goals
      simp [Kind.defaultSize, Size.px, Size.auto, Dimension.getD, Dimension.px?, fallbackWidth,
        fallbackHeight]
  exact ⟨_, _, side_pos hm.1 hu.1, side_pos hm.2 hu.2, rfl⟩

lemma toMenuHeight_pos : 0 < e.toMenuHeight := by
  unfold toMenuHeight
  split
  · split
    · assumption
    · decide
  · decide

/-- The element of an entry that names a kind is canonical. -/
theorem canonical_toElement (h : e.kind ≠ "") :
    (e.toElement canvas fonts n).Canonical canvas := by
  cases hm : e.toKind.isMenu with
  | true =>
    have hk := Kind.isMenu_iff.mp hm
    rw [toElement_of_menu canvas fonts n hm]
    refine ⟨hk ▸ tagged_toKind h, by simp, by simp [Kind.isMenu], fun _ => ?_⟩
    exact ⟨rfl, rfl, rfl, rfl, e.toMenuHeight, toMenuHeight_pos, rfl, rfl⟩
  | false =>
    rw [toElement_of_not_menu canvas fonts n hm]
    refine ⟨tagged_toKind h, toKind_ne, fun _ => ?_, fun hm' => absurd hm' (by simp [hm])⟩
    constructor
    · exact toSize_pos hm
    · rfl
    · rw [← Kind.hasBackground_iff]
      cases hb : e.toKind.hasBackground <;> simp [toStyle, hb]
    · rfl
    · exact opacity_toStyle_le _ e
    · intro source hs
      simp only at hs
      simp [toLabel, hs, Kind.hasText]

end ElementEntry

namespace Element

variable {canvas : Canvas} {e : Element}

/-- A side of a canonical element in range is read back. -/
lemma side_reread {kind : Kind} {w measured fallback : Int} {usual : Dimension} (hpos : 0 < w)
    (hr : Storyboard.InRange w) :
    ElementEntry.side kind (some (Dimension.px w).reread) measured usual fallback = w := by
  simp only [Dimension.reread, hr.coordinate_ofInt, ElementEntry.side, hpos, if_true]

section Item

variable (hm : e.kind.isMenu = false)

include hm

lemma x_reread_toEntry (hr : e.InRange) : e.toEntry.reread.x = e.position.x :=
  (congrArg ElementEntry.x (look_reread_toEntry hm)).trans hr.x.coordinate_ofInt

lemma y_reread_toEntry (hr : e.InRange) : e.toEntry.reread.y = e.position.y :=
  (congrArg ElementEntry.y (look_reread_toEntry hm)).trans hr.y.coordinate_ofInt

lemma width_reread_toEntry : e.toEntry.reread.width = some e.size.width.reread :=
  congrArg ElementEntry.width (look_reread_toEntry hm)

lemma height_reread_toEntry : e.toEntry.reread.height = some e.size.height.reread :=
  congrArg ElementEntry.height (look_reread_toEntry hm)

lemma opacity_reread_toEntry :
    e.toEntry.reread.opacity = some (opacityFraction e.style.opacity) := by
  have hlook := congrArg ElementEntry.opacity (look_reread_toEntry hm)
  have hfinite := opacityFraction_isFinite e.style.opacity
  rw [show e.toEntry.reread.opacity = (some (opacityFraction e.style.opacity)).filter (·.isFinite)
    from hlook]
  simp [Option.filter, hfinite]

/-- The background of a button is read back, white if it has none, and other kinds have none. -/
lemma background_reread_toEntry :
    (if e.kind.hasBackground then
        some ((e.toEntry.reread.background.bind Color.ofHex?).getD .white) else none)
      = if e.kind.hasBackground then some (e.style.background.getD .white) else none := by
  have hlook : e.toEntry.reread.background
      = if e.kind.hasBackground then e.style.background.map Color.toHex else none :=
    congrArg ElementEntry.background (look_reread_toEntry hm)
  cases hb : e.kind.hasBackground with
  | true => cases hs : e.style.background <;> simp [hlook, hb, hs, Color.ofHex?_toHex]
  | false => rfl

/-- A style with a color and a font is read back, apart from the background. -/
lemma toStyle_reread_toEntry (hcolor : e.style.color.isSome = true)
    (hfont : e.style.font.isSome = true) (hopacity : e.style.opacity ≤ 100) :
    e.toEntry.reread.toStyle e.kind = { e.style with
      background := if e.kind.hasBackground then some (e.style.background.getD .white) else none }
    := by
  have hlook := look_reread_toEntry hm
  have hcolor' : e.toEntry.reread.color = e.style.color.map Color.toHex :=
    congrArg ElementEntry.color hlook
  have hfont' : e.toEntry.reread.font = e.style.font.map FontCategory.name :=
    congrArg ElementEntry.font hlook
  have hpercent : ElementEntry.percent (opacityFraction e.style.opacity) = e.style.opacity := by
    rw [percent_opacityFraction, Nat.min_eq_left hopacity]
  obtain ⟨c, hc⟩ := Option.isSome_iff_exists.mp hcolor
  obtain ⟨f, hf⟩ := Option.isSome_iff_exists.mp hfont
  simp only [ElementEntry.toStyle, hcolor', hfont', opacity_reread_toEntry hm,
    ElementEntry.colorOr, background_reread_toEntry hm, hc, hf, hpercent, Option.map_some,
    Option.bind_some, Color.ofHex?_toHex, FontCategory.ofName?_name, Option.getD_some]

/-- Positive sides in range are read back. -/
lemma toSize_reread_toEntry (hr : e.InRange) {w h : Int} (hw : 0 < w) (hh : 0 < h)
    (hsize : e.size = .px w h) (canvas : Canvas) (fonts : FontSizes) (kind : Kind) (text : String)
    (style : Style) : e.toEntry.reread.toSize canvas fonts kind text style = .px w h := by
  have hwidth := width_reread_toEntry hm
  have hheight := height_reread_toEntry hm
  rw [hsize] at hwidth hheight
  simp only [ElementEntry.toSize, hwidth, hheight, Size.px]
  rw [side_reread hw (hr.width w (by rw [hsize]; rfl)),
    side_reread hh (hr.height h (by rw [hsize]; rfl))]

end Item

section Canonical

variable (h : e.CanonicalItem) (hm : e.kind.isMenu = false)

include h hm

lemma CanonicalItem.toStyle_reread : e.toEntry.reread.toStyle e.kind = e.style := by
  have hbackground : (if e.kind.hasBackground then some (e.style.background.getD .white) else none)
      = e.style.background := by
    have hiff := h.background
    rw [← Kind.hasBackground_iff] at hiff
    cases hs : e.style.background <;> simp_all
  rw [toStyle_reread_toEntry hm h.color h.font h.opacity, hbackground]

lemma CanonicalItem.toLabel_reread : e.toEntry.reread.toLabel e.kind.settled = e.text := by
  cases ht : e.kind.hasText with
  | true => exact toLabel_reread_toEntry ht
  | false =>
    obtain ⟨source, hs⟩ : ∃ source, e.kind = .image source := by
      cases hk : e.kind <;> simp_all [Kind.hasText, Kind.isMenu]
    rw [ElementEntry.toLabel, Kind.hasText_settled, ht, h.text source hs]
    rfl

lemma CanonicalItem.toSize_reread (hr : e.InRange) (canvas : Canvas) (fonts : FontSizes)
    (text : String) (style : Style) :
    e.toEntry.reread.toSize canvas fonts e.kind text style = e.size := by
  obtain ⟨w, height, hw, hh, hsize⟩ := h.size
  rw [toSize_reread_toEntry hm hr hw hh hsize, hsize]

end Canonical

/-- A canonical menu is read back from its entry, under another number. -/
lemma CanonicalMenu.toElement_reread (h : e.CanonicalMenu canvas) (hm : e.kind.isMenu = true)
    (hr : e.InRange) (fonts : FontSizes) (n : Nat) :
    e.toEntry.reread.toElement canvas fonts n = e.renumber n := by
  obtain ⟨htext, hstyle, htrigger, hx, height, hpos, hsize, hy⟩ := h
  have hread : e.toEntry.reread.toMenuHeight = height := by
    have hheight := (hr.height height (by rw [hsize]; rfl)).coordinate_ofInt
    rw [toEntry_of_menu hm, hsize]
    simp [ElementEntry.reread, ElementEntry.toMenuHeight, Size.px, Dimension.reread, hheight, hpos]
  have hkind : e.toEntry.reread.toKind.isMenu = true := by
    rw [toEntry_of_menu hm, Kind.isMenu_iff.mp hm]
    rfl
  rw [ElementEntry.toElement_of_menu canvas fonts n hkind, hread]
  obtain ⟨id, kind, ⟨x, y⟩, size, text, style, trigger⟩ := e
  obtain rfl : kind = .menu := Kind.isMenu_iff.mp hm
  simp only at htext hstyle htrigger hx hsize hy
  subst htext hstyle htrigger hx hsize hy
  rfl

/-- A canonical element is read back from its entry, under another number. -/
theorem Canonical.toElement_reread (h : e.Canonical canvas) (hr : e.InRange) (fonts : FontSizes)
    (n : Nat) : e.toEntry.reread.toElement canvas fonts n = e.renumber n := by
  have hkind : e.toEntry.reread.toKind = e.kind := by
    rw [toKind_reread_toEntry h.tagged, Kind.settled_of_ne h.source]
  cases hm : e.kind.isMenu with
  | true => exact (h.menu hm).toElement_reread hm hr fonts n
  | false =>
    have hitem := h.item hm
    have htext := hitem.toLabel_reread hm
    rw [Kind.settled_of_ne h.source] at htext
    rw [ElementEntry.toElement_of_not_menu canvas fonts n (hkind ▸ hm), hkind,
      hitem.toStyle_reread hm, htext, hitem.toSize_reread hm hr,
      x_reread_toEntry hm hr, y_reread_toEntry hm hr,
      toTrigger_reread_toEntry (fun ht => absurd ht (by simp [hm]))]
    rfl

end Element

end Storyboard
