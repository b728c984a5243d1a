import Storyboard.Proofs.Session.Place
import Storyboard.Proofs.Session.Style

/-!
# Well-formed elements

Elements come from the toolbar, from documents, from copies and from edits, each with rules of its
own for sizes and styles. As long as canvases and the resize floor are positive, every element of a
session can be seen and looks as its kind allows, wherever it comes from.
-/

namespace Storyboard

/-- Both sides of the canvas have at least a pixel. -/
structure Canvas.Positive (c : Canvas) : Prop where
  width : 1 ≤ c.width
  height : 1 ≤ c.height

/-- A canvas that the action sets is positive. -/
def Action.Positive : Action → Prop
  | .setCanvas canvas => canvas.Positive
  | _ => True

namespace Element

variable {canvas : Canvas} {e e' : Element}

/-- Every side in pixels has at least one, and so has every side that the element shows, whatever
the fonts are. -/
structure Visible (e : Element) : Prop where
  width : ∀ w, e.size.width = .px w → 1 ≤ w
  height : ∀ h, e.size.height = .px h → 1 ≤ h
  shown : ∀ fonts, 1 ≤ (e.resolvedSize fonts).1 ∧ 1 ≤ (e.resolvedSize fonts).2

/-- A label has no background. -/
def Unbacked (e : Element) : Prop :=
  e.kind = .label → e.style.background = none

/-- An element can be seen, has the style of its kind and, if it is a label, no background. -/
structure WellFormed (e : Element) : Prop extends Visible e, Styled e where
  label : e.Unbacked

/-! ### Elements that can be seen -/

lemma visible_px {w h : Int} (hw : 1 ≤ w) (hh : 1 ≤ h) (hs : e.size = .px w h) : e.Visible := by
  refine ⟨fun i hi => ?_, fun i hi => ?_, fun fonts => ?_⟩
  · rw [hs] at hi
    exact Dimension.px.inj hi ▸ hw
  · rw [hs] at hi
    exact Dimension.px.inj hi ▸ hh
  · rw [resolvedSize_px hs]
    exact ⟨hw, hh⟩

/-- What is measured has at least a pixel on both sides. -/
lemma visible_auto (hs : e.size = .auto) : e.Visible := by
  refine ⟨fun i hi => ?_, fun i hi => ?_, fun fonts => ?_⟩
  · rw [hs] at hi
    cases hi
  · rw [hs] at hi
    cases hi
  · rw [resolvedSize, hs]
    exact ElementEntry.textExtent_pos _ _

/-- A menu is as wide as the canvas. -/
lemma CanonicalMenu.visible (h : e.CanonicalMenu canvas) (hc : canvas.Positive) : e.Visible := by
  obtain ⟨height, hpos, hsize, -⟩ := h.size
  exact visible_px hc.width hpos hsize

lemma Sized.visible (h : e.Sized) (hmenu : e.kind.isMenu = true → e.CanonicalMenu canvas)
    (hc : canvas.Positive) : e.Visible := by
  cases h with
  | menu h => exact (hmenu h).visible hc
  | pixels hw hh h => exact visible_px hw hh h
  | unknown hk h => exact visible_auto h

/-! ### Labels -/

/-- The rules of the kinds take the background of a label away. -/
lemma unbacked_conform (e : Element) : e.conform.Unbacked := by
  intro h
  rw [conform_kind] at h
  rw [conform, h]

lemma Unbacked.fit (h : e.Unbacked) (canvas : Canvas) (fonts : FontSizes) :
    (e.fit canvas fonts).Unbacked := by
  rw [Unbacked, fit_kind, fit_style]
  exact h

lemma unbacked_of_menu (h : e.kind.isMenu = true) : e.Unbacked := by
  intro hk
  rw [hk] at h
  contradiction

lemma unbacked_create (n : Nat) (kind : Kind) (p : Position) (canvas : Canvas) :
    (create n kind p canvas).Unbacked := by
  cases hm : kind.isMenu with
  | true => exact unbacked_of_menu (by simpa using hm)
  | false =>
    rw [create, if_neg (by simp [hm])]
    exact unbacked_conform _

lemma unbacked_toElement (fonts : FontSizes) (n : Nat) (entry : ElementEntry) :
    (entry.toElement canvas fonts n).Unbacked := by
  cases hm : entry.toKind.isMenu with
  | true =>
    apply unbacked_of_menu
    rw [ElementEntry.toElement_of_menu canvas fonts n hm]
    rfl
  | false =>
    rw [ElementEntry.toElement, if_neg (by simp [hm])]
    exact unbacked_conform _

lemma Incoming.unbacked (h : e.Incoming canvas) : e.Unbacked := by
  cases h with
  | menu fonts n => exact (unbacked_create n .menu {} canvas).fit canvas fonts
  | entry hr hk c fonts n => exact (unbacked_toElement fonts n _).fit canvas fonts

end Element

namespace Session

variable {s : Session} {n m : Nat} {a : Action} {o : Outcome} {canvas : Canvas} {e : Element}

lemma Origin.unbacked (hs : ∀ d, s.Holds d → d.Unbacked) (h : s.Origin a canvas e) :
    e.Unbacked := by
  cases h with
  | held h => exact hs e h
  | incoming h => exact h.unbacked
  | created n kind p => exact (Element.unbacked_create n kind p s.canvas).fit s.canvas s.fonts
  | @copied a d h n => exact hs d h
  | edited h id edit => exact Element.unbacked_conform _
  | dragged h g p => exact Element.unbacked_conform _
  | fitted h canvas => exact (hs _ h).fit canvas s.fonts

/-- No label of a session has a background. -/
lemma Reachable.unbacked {admits : Action → Prop} (h : Reachable admits s n) :
    ∀ e, s.Holds e → e.Unbacked :=
  h.forall_holds (P := fun _ e => e.Unbacked) (fun he => he.unbacked)
    (fun _ _ hd he => he.unbacked hd) rfl

/-- A step keeps the canvas or sets a positive one. -/
lemma Step.canvas_positive {s' : Session} (h : Step s n a o s' m) (ha : a.Positive)
    (hc : s.canvas.Positive) : s'.canvas.Positive := by
  cases h with
  | setCanvas canvas => exact ha
  | _ => exact hc

/-- A session that began on a positive canvas is on one. -/
lemma Reachable.canvas_positive (h : Reachable Action.Positive s n) :
    s.config.canvas.Positive → s.canvas.Positive := by
  refine h.invariant (P := fun s => s.config.canvas.Positive → s.canvas.Positive) ?_ ?_ ?_ ?_
  · intro config n hc
    rcases new_cases config n with h | h <;> rw [h] at hc ⊢ <;> exact hc
  · intro config canvas n m text p _ hc
    exact hc
  · intro t canvas n m text p ht _ hc
    exact ht hc
  · intro t t' n m a o ht ha hstep hc
    rw [hstep.config_eq] at hc
    exact hstep.canvas_positive ha (ht hc)

/-- Where the canvas is positive at the start and whenever it is set, and resizing leaves at least
a pixel, every element of a session is well-formed, be it live or stored in any scene. -/
theorem elements_wellFormed (hs : Reachable Action.Positive s n)
    (hc : s.config.canvas.Positive) (hf : 1 ≤ s.config.minElementSize) :
    ∀ e, s.Holds e → e.WellFormed := by
  intro e he
  have hvisible : e.Visible :=
    (hs.sized hf e he).visible (hs.canonicalMenu e he) (hs.canvas_positive hc)
  exact { hvisible, hs.styled e he with label := hs.unbacked e he }

/-- A document with sides and an opacity that no editor writes, opened on a canvas of one pixel, and
edits that would take sides below zero and give a label a background. -/
theorem elements_wellFormed_odd_document :
    let text := "\x7b\"scenes\":[\x7b\"elements\":["
      ++ "\x7b\"type\":\"label\",\"width\":-5,\"height\":0.25,\"opacity\":-7\x7d,"
      ++ "\x7b\"type\":\"menu\",\"height\":-80\x7d]\x7d]\x7d"
    let actions : List Action :=
      [.setCanvas ⟨1, 1⟩, .importText text, .addElement (.image none) ⟨5, 5⟩,
        .addElement (.ofTag "timer") ⟨5, 5⟩, .edit (.numbered "image" 2) (.resize (-10) 0),
        .edit (.numbered "timer" 3) (.opacity 900),
        .edit (.numbered "label" 0) (.background (some ⟨255, 0, 0⟩)), .duplicateScene "B"]
    let s := ((Session.new { minElementSize := 1 } 0).1.run 0 actions).1
    let looks := s.live.map fun e => (e.resolvedSize s.fonts, e.style.opacity)
    Reachable Action.Positive s 8 ∧ s.config.canvas.Positive ∧ 1 ≤ s.config.minElementSize ∧
      looks = [((120, 40), 0), ((1, 50), 100), ((1, 1), 100), ((88, 34), 100)] ∧
      ∀ e, s.Holds e → e.WellFormed := by
  intro text actions s looks
  have hpositive : ∀ a ∈ actions, a.Positive := by
    simp only [actions, List.forall_mem_cons, List.not_mem_nil, false_implies, implies_true,
      and_true]
    exact ⟨⟨by decide, by decide⟩, trivial, trivial, trivial, trivial, trivial, trivial, trivial⟩
  have hs : Reachable Action.Positive s (((Session.new { minElementSize := 1 } 0).1.run 0 actions).2)
    := (Reachable.new _ 0).run hpositive
  have hrun : ((Session.new { minElementSize := 1 } 0).1.run 0 actions).2 = 8 ∧
      s.config = { minElementSize := 1 } ∧
      looks = [((120, 40), 0), ((1, 50), 100), ((1, 1), 100), ((88, 34), 100)] := by
    decide +kernel
  obtain ⟨hnext, hconfig, hlooks⟩ := hrun
  have hc : s.config.canvas.Positive := by
    rw [hconfig]
    exact ⟨by decide, by decide⟩
  have hf : 1 ≤ s.config.minElementSize := by
    rw [hconfig]
  exact ⟨hnext ▸ hs, hc, hf, hlooks, elements_wellFormed hs hc hf⟩

end Session

end Storyboard
