import Storyboard.Proofs.Document.Element
import Storyboard.Session.Gesture

/-!
# Elements that can be saved

An element can be saved when a tag names its kind, a menu has no trigger and its numbers are not
so large that a text could not keep them. Such are the elements that are created or read, and they
stay such through edits and on other canvases.
-/

namespace Storyboard

open Json

/-- The number is at most `2 ^ bits` in size. -/
def Within (bits : Nat) (i : Int) : Prop :=
  -(2 ^ bits : Int) ≤ i ∧ i ≤ 2 ^ bits

lemma InRange.within {i : Int} (h : InRange i) : Within 31 i := by
  simp only [InRange, minCoordinate, maxCoordinate] at h
  simp only [Within]
  omega

lemma Within.mono {b c : Nat} {i : Int} (h : Within b i) (hbc : b ≤ c) : Within c i := by
  have hpow : (2 ^ b : Int) ≤ 2 ^ c := by exact_mod_cast Nat.pow_le_pow_right (by decide) hbc
  simp only [Within] at h ⊢
  omega

lemma within_zero (b : Nat) : Within b 0 := by
  have hpos : (0 : Int) < 2 ^ b := Int.pow_pos (by decide)
  simp only [Within]
  omega

/-- Both coordinates are in range. -/
def Position.InRange (p : Position) : Prop :=
  Storyboard.InRange p.x ∧ Storyboard.InRange p.y

/-- Both sides are in range. -/
def Canvas.InRange (c : Canvas) : Prop :=
  Storyboard.InRange c.width ∧ Storyboard.InRange c.height

/-- An element that can be saved once it was brought inside a canvas. -/
structure Element.Storable (e : Element) : Prop where
  tagged : e.kind.Tagged
  trigger : e.kind.isMenu = true → e.trigger = none
  height : ∀ n, e.size.height = .px n → Within 34 n
  item : e.kind.isMenu = false → Within 35 e.position.x ∧ Within 35 e.position.y ∧
    ∀ n, e.size.width = .px n → Within 34 n

/-- An element that can be saved. -/
structure Element.Savable (e : Element) : Prop where
  tagged : e.kind.Tagged
  trigger : e.kind.isMenu = true → e.trigger = none
  x : Within 35 e.position.x
  y : Within 35 e.position.y
  width : ∀ n, e.size.width = .px n → Within 34 n
  height : ∀ n, e.size.height = .px n → Within 34 n

namespace Element

variable {canvas : Canvas} {fonts : FontSizes} {e : Element}

lemma Savable.storable (h : e.Savable) : e.Storable :=
  ⟨h.tagged, h.trigger, h.height, fun _ => ⟨h.x, h.y, h.width⟩⟩

/-- Numbers that can be saved are short enough for a text. -/
lemma Savable.legible (h : e.Savable) : e.Legible := by
  have key : ∀ {b : Nat} {i : Int}, b ≤ 35 → Within b i → fits64 i = true := by
    intro b i hb hi
    have hi := hi.mono hb
    simp only [Within] at hi
    simp only [fits64, Bool.and_eq_true, decide_eq_true_eq]
    omega
  exact ⟨key (by decide) h.x, key (by decide) h.y, fun n hn => key (by decide) (h.width n hn),
    fun n hn => key (by decide) (h.height n hn)⟩

/-! ### Other canvases -/

lemma within_clampSide {extent length i : Int} (h : Within 35 i) :
    Within 35 (Canvas.clampSide extent length i) := by
  simp only [Within, Canvas.clampSide] at h ⊢
  omega

/-- A storable element can be saved once it was brought inside a canvas. -/
theorem Storable.fit (h : e.Storable) (hc : canvas.InRange) : (e.fit canvas fonts).Savable := by
  have hw := hc.1.within
  have hh := hc.2.within
  cases hm : e.kind.isMenu with
  | true =>
    have hheight : Within 34 (e.size.height.getD menuHeight) := by
      cases hs : e.size.height with
      | px n => exact h.height n hs
      | auto => exact ⟨by decide, by decide⟩
    rw [fit_of_menu canvas fonts e hm]
    refine ⟨h.tagged, h.trigger, within_zero 35, ?_, fun n hn => ?_, fun n hn => ?_⟩
    · simp only [Within, anchor] at hh hheight ⊢
      omega
    · cases hn
      exact hw.mono (by decide)
    · cases hn
      exact hheight
  | false =>
    obtain ⟨hx, hy, hwidth⟩ := h.item hm
    rw [fit_of_not_menu canvas fonts e hm]
    exact ⟨h.tagged, h.trigger, within_clampSide hx, within_clampSide hy, hwidth, h.height⟩

/-! ### New elements and copies -/

lemma within_defaultSize (canvas : Canvas) (kind : Kind) :
    (∀ n, (kind.defaultSize canvas).height = .px n → Within 34 n) ∧
      (kind.isMenu = false → ∀ n, (kind.defaultSize canvas).width = .px n → Within 34 n) := by
  have hside {k : Int} (hk : 0 ≤ k ∧ k ≤ 600) {n : Int} (hn : Dimension.px k = .px n) :
      Within 34 n := by
    cases hn
    simp only [Within]
    omega
  cases kind
  case menu => exact ⟨fun n => hside (by decide), fun h => by simp [Kind.isMenu] at h⟩
  case other =>
    exact ⟨fun n hn => (Dimension.noConfusion hn), fun _ n hn => (Dimension.noConfusion hn)⟩
  all_goals exact ⟨fun n => hside (by decide), fun _ n => hside (by decide)⟩

lemma storable_create (n : Nat) {kind : Kind} (hkind : kind.Tagged) {p : Position}
    (hp : p.InRange) : (create n kind p canvas).Storable := by
  obtain ⟨hheight, hwidth⟩ := within_defaultSize canvas kind
  cases hm : kind.isMenu with
  | true =>
    simp only [create, hm, if_true]
    exact ⟨hkind, fun _ => rfl, hheight, fun h => absurd h (by simp [hm])⟩
  | false =>
    simp only [create, hm, Bool.false_eq_true, if_false]
    refine ⟨by simpa using hkind, fun h => ?_, by simpa using hheight, fun _ => ?_⟩
    · simp [hm] at h
    · simp only [conform_position, conform_size]
      exact ⟨hp.1.within.mono (by decide), hp.2.within.mono (by decide), hwidth hm⟩

lemma Savable.renumber (h : e.Savable) (n : Nat) : (e.renumber n).Savable :=
  ⟨h.tagged, h.trigger, h.x, h.y, h.width, h.height⟩

/-! ### Edits -/

/-- The rules of the kinds take the trigger of a menu away. -/
lemma savable_conform (htagged : e.kind.Tagged) (hx : Within 35 e.position.x)
    (hy : Within 35 e.position.y) (hwidth : ∀ n, e.size.width = .px n → Within 34 n)
    (hheight : ∀ n, e.size.height = .px n → Within 34 n) : e.conform.Savable := by
  refine ⟨by simpa using htagged, fun hm => ?_, by simpa using hx, by simpa using hy,
    by simpa using hwidth, by simpa using hheight⟩
  exact conform_trigger_of_menu e (by simpa using hm)

lemma Savable.conform (h : e.Savable) : e.conform.Savable :=
  savable_conform h.tagged h.x h.y h.width h.height

end Element

/-- The numbers of an edit stay within bounds. -/
def Edit.Moderate : Edit → Prop
  | .move p => Within 34 p.x ∧ Within 34 p.y
  | .resize w h => Within 34 w ∧ Within 34 h
  | _ => True

/-- What edits depend on is in range. -/
def EditContext.InRange (ctx : EditContext) : Prop :=
  ctx.canvas.InRange ∧ Storyboard.InRange ctx.floor

namespace Element

variable {ctx : EditContext} {e : Element}

lemma Savable.moveTo (h : e.Savable) {canvas : Canvas} {fonts : FontSizes} {p : Position}
    (hx : Within 34 p.x) (hy : Within 34 p.y) : (e.moveTo canvas fonts p).Savable :=
  ⟨h.tagged, h.trigger, within_clampSide (hx.mono (by decide)),
    within_clampSide (hy.mono (by decide)), h.width, h.height⟩

lemma within_floorSize {floor w h : Int} (hf : Storyboard.InRange floor) (hw : Within 34 w)
    (hh : Within 34 h) : Within 34 (floorSize floor w h).1 ∧ Within 34 (floorSize floor w h).2 := by
  have hf := hf.within
  simp only [Within, floorSize] at hf hw hh ⊢
  omega

/-- Other data of the same kind. -/
lemma Savable.withKind (h : e.Savable) {kind : Kind} (hkind : kind.bare = e.kind.bare) :
    ({ e with kind } : Element).conform.Savable :=
  savable_conform (h.tagged.of_bare hkind) h.x h.y h.width h.height

/-- An edit keeps an element such that it can be saved. -/
theorem Savable.apply (h : e.Savable) (hctx : ctx.InRange) {edit : Edit} (hedit : edit.Moderate) :
    (edit.apply ctx e).Savable := by
  cases edit with
  | move p =>
    simp only [Edit.apply, Edit.change]
    split
    · exact h.conform
    · exact (h.moveTo hedit.1 hedit.2).conform
  | resize w height =>
    simp only [Edit.apply, Edit.change]
    split
    · exact h.conform
    · obtain ⟨hw, hh⟩ := within_floorSize hctx.2 hedit.1 hedit.2
      refine savable_conform h.tagged h.x h.y (fun n hn => ?_) fun n hn => ?_
      · cases hn
        exact hw
      · cases hn
        exact hh
  | text | color | background | font | opacity | trigger =>
    exact savable_conform h.tagged h.x h.y h.width h.height
  | image source =>
    simp only [Edit.apply, Edit.change]
    split
    · rename_i hk
      exact h.withKind (by rw [hk]; rfl)
    · exact h.conform
  | video pathVariable =>
    simp only [Edit.apply, Edit.change]
    split
    · rename_i hk
      exact h.withKind (by rw [hk]; rfl)
    · exact h.conform
  | collapsedList command listVariable =>
    simp only [Edit.apply, Edit.change]
    split
    · rename_i hk
      exact h.withKind (by rw [hk]; rfl)
    · exact h.conform

end Element

/-- Every number of the gesture is in range. -/
structure Gesture.InRange (g : Gesture) : Prop where
  pointer : g.pointer.InRange
  position : g.position.InRange
  width : Storyboard.InRange g.size.1
  height : Storyboard.InRange g.size.2

/-- The edit of a gesture stays within bounds. -/
lemma Gesture.InRange.moderate {g : Gesture} (h : g.InRange) {p : Position} (hp : p.InRange) :
    (g.edit p).Moderate := by
  obtain ⟨⟨ha, hb⟩, ⟨hc, hd⟩, hw, hh⟩ := h
  obtain ⟨hx, hy⟩ := hp
  simp only [Storyboard.InRange, minCoordinate, maxCoordinate] at ha hb hc hd hw hh hx hy
  cases hk : g.kind <;> simp only [Gesture.edit, hk, Edit.Moderate, Within] <;> omega

/-! ### Elements of documents -/

lemma within_textExtent (chars px : Nat) :
    Within 34 (textExtent chars px).1 ∧ Within 34 (textExtent chars px).2 := by
  have hpixels (x : Single) : -2147483648 ≤ x.pixels ∧ x.pixels ≤ 2147483647 := by
    simp only [Single.pixels, Binary.ceilWithin, Binary.clip, minCoordinate, maxCoordinate]
    omega
  have hwidth := hpixels (((Single.ofNat chars).mul (Single.ofNat px)).mul (Single.tenths 6))
  have hheight := hpixels ((Single.ofNat px).mul (Single.tenths 14))
  simp only [Within, textExtent, textPadding]
  omega

namespace ElementEntry

variable {canvas : Canvas} {fonts : FontSizes} {n : Nat} {e : ElementEntry}

lemma within_toMenuHeight (h : e.InRange) : Within 34 e.toMenuHeight := by
  have hbar : Within 34 menuHeight := ⟨by decide, by decide⟩
  unfold toMenuHeight
  split
  · rename_i k hk
    split
    · exact (h.height k hk).within.mono (by decide)
    · exact hbar
  · exact hbar

lemma within_side {kind : Kind} {given : Option Dimension} {measured fallback : Int}
    {usual : Dimension} (hg : ∀ k, given = some (.px k) → Storyboard.InRange k)
    (hm : Within 34 measured) (hu : ∀ k, usual = .px k → Within 34 k) (hf : Within 34 fallback) :
    Within 34 (side kind given measured usual fallback) := by
  have husual : Within 34 (usual.getD fallback) := by
    cases usual with
    | px k => exact hu k rfl
    | auto => exact hf
  unfold side
  split
  · rename_i k
    split
    · exact (hg k rfl).within.mono (by decide)
    · exact husual
  · split
    · exact hm
    · exact husual
  · exact husual

lemma within_toSize (canvas : Canvas) (fonts : FontSizes) {kind : Kind} (h : e.InRange)
    (hm : kind.isMenu = false) (text : String) (style : Style) :
    (∀ k, (e.toSize canvas fonts kind text style).width = .px k → Within 34 k) ∧
      ∀ k, (e.toSize canvas fonts kind text style).height = .px k → Within 34 k := by
  obtain ⟨hheight, hwidth⟩ := Element.within_defaultSize canvas kind
  have hextent := within_textExtent (Element.sample kind text).length
    (fonts.px (style.font.getD .fallback))
  constructor
  · intro k hk
    cases hk
    exact within_side h.width hextent.1 (hwidth hm) ⟨by decide, by decide⟩
  · intro k hk
    cases hk
    exact within_side h.height hextent.2 hheight ⟨by decide, by decide⟩

/-- The element of an entry with numbers in range is storable. -/
theorem storable_toElement (h : e.InRange) (hkind : e.kind ≠ "") :
    (e.toElement canvas fonts n).Storable := by
  cases hm : e.toKind.isMenu with
  | true =>
    have hk := Kind.isMenu_iff.mp hm
    rw [toElement_of_menu canvas fonts n hm]
    refine ⟨hk ▸ tagged_toKind hkind, fun _ => rfl, fun k hn => ?_, by simp [Kind.isMenu]⟩
    cases hn
    exact within_toMenuHeight h
  | false =>
    obtain ⟨hwidth, hheight⟩ := within_toSize canvas fonts h hm
      (e.toLabel e.toKind) (e.toStyle e.toKind)
    rw [toElement_of_not_menu canvas fonts n hm]
    exact ⟨tagged_toKind hkind, fun hm' => absurd hm' (by simp [hm]), hheight,
      fun _ => ⟨h.x.within.mono (by decide), h.y.within.mono (by decide), hwidth⟩⟩

end ElementEntry

end Storyboard
