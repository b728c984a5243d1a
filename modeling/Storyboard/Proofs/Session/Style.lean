import Storyboard.Proofs.Session.MenuBar
import Storyboard.Proofs.Session.Reopening

/-!
# Styles after saving and opening

A document holds the background of buttons only. Everything else about the style of an element is
written and read back, because every element but a menu has a color and a font at all times.
-/

namespace Storyboard

namespace Element

variable {canvas : Canvas} {fonts : FontSizes} {e e' : Element}

/-- An element has a color and a font, unless it is a menu, and is at most opaque. -/
structure Styled (e : Element) : Prop where
  color : e.kind.isMenu = false → e.style.color.isSome = true
  font : e.kind.isMenu = false → e.style.font.isSome = true
  opacity : e.style.opacity ≤ 100

/-- The background that an element has after saving and opening: a button has one, white if it
had none before, and other kinds have none. -/
def returnedBackground (e : Element) : Option Color :=
  if e.kind = .button then some (e.style.background.getD .white) else none

/-- The second element has the style with which the first comes back. -/
structure StyleReturns (e e' : Element) : Prop where
  color : e'.style.color = e.style.color
  background : e'.style.background = e.returnedBackground
  font : e'.style.font = e.style.font
  opacity : e'.style.opacity = e.style.opacity

/-! ### Every element has a style -/

lemma styled_menu (h : e.kind.isMenu = true) (hs : e.style = {}) : e.Styled :=
  ⟨fun hm => absurd hm (by simp [h]), fun hm => absurd hm (by simp [h]), by simp [hs]⟩

/-- The rules of the kinds keep color and font and bound the opacity. -/
lemma styled_conform (hcolor : e.kind.isMenu = false → e.style.color.isSome = true)
    (hfont : e.kind.isMenu = false → e.style.font.isSome = true) : e.conform.Styled := by
  obtain ⟨id, kind, position, size, text, style, trigger⟩ := e
  cases kind with
  | menu => exact styled_menu rfl rfl
  | _ => exact ⟨hcolor, hfont, Nat.min_le_right style.opacity 100⟩

lemma Styled.fit (h : e.Styled) (canvas : Canvas) (fonts : FontSizes) :
    (e.fit canvas fonts).Styled := by
  obtain ⟨hcolor, hfont, hopacity⟩ := h
  exact ⟨by simpa using hcolor, by simpa using hfont, by simpa using hopacity⟩

lemma styled_create (n : Nat) (kind : Kind) (p : Position) (canvas : Canvas) :
    (create n kind p canvas).Styled := by
  unfold create
  split
  · rename_i hm
    exact styled_menu hm rfl
  · exact styled_conform (fun _ => rfl) fun _ => rfl

lemma Incoming.styled (h : e.Incoming canvas) : e.Styled := by
  cases h with
  | menu fonts n => exact (styled_create n .menu {} canvas).fit canvas fonts
  | @entry entry hr hk c fonts n =>
    refine Styled.fit ?_ canvas fonts
    cases hm : entry.toKind.isMenu with
    | true =>
      rw [ElementEntry.toElement_of_menu c fonts n hm]
      exact styled_menu rfl rfl
    | false =>
      rw [ElementEntry.toElement_of_not_menu c fonts n hm]
      exact ⟨fun _ => rfl, fun _ => rfl, ElementEntry.opacity_toStyle_le _ entry⟩

/-- No edit takes a color or a font away. -/
lemma Styled.changed {ctx : EditContext} (h : e.Styled) (hchanged : Edit.Changed ctx e e') :
    e'.conform.Styled := by
  have hmenu := hchanged.isMenu_eq
  apply styled_conform
  · rw [hmenu]
    cases hchanged with
    | color c => exact fun _ => rfl
    | _ => exact h.color
  · rw [hmenu]
    cases hchanged with
    | font f => exact fun _ => rfl
    | _ => exact h.font

/-! ### The style that comes back -/

/-- The entry of an element gives its style again. -/
lemma Styled.styleReturns (h : e.Styled) (htagged : e.kind.Tagged)
    (hmenu : e.kind.isMenu = true → e.style = {}) (n : Nat) :
    e.StyleReturns (e.toEntry.reread.toElement canvas fonts n) := by
  have hkind := toKind_reread_toEntry htagged
  cases hm : e.kind.isMenu with
  | true =>
    have hbutton : e.kind ≠ .button := by
      intro hk
      simp [hk, Kind.isMenu] at hm
    rw [ElementEntry.toElement_of_menu canvas fonts n (by simp [hkind, hm])]
    constructor <;> simp [hmenu hm, returnedBackground, hbutton]
  | false =>
    rw [ElementEntry.toElement_of_not_menu canvas fonts n (by simp [hkind, hm]), hkind]
    have hstyle := toStyle_reread_toEntry hm (h.color hm) (h.font hm) h.opacity
    have hsettled : e.toEntry.reread.toStyle e.kind.settled = e.toEntry.reread.toStyle e.kind := by
      simp only [ElementEntry.toStyle, Kind.hasBackground_settled]
    constructor
    · simp only [hsettled, hstyle]
    · simp only [hsettled, hstyle, Kind.hasBackground_iff, returnedBackground]
    · simp only [hsettled, hstyle]
    · simp only [hsettled, hstyle]

lemma StyleReturns.fit (h : e.StyleReturns e') (canvas : Canvas) (fonts : FontSizes) :
    e.StyleReturns (e'.fit canvas fonts) := by
  obtain ⟨hcolor, hbackground, hfont, hopacity⟩ := h
  exact ⟨by simpa using hcolor, by simpa using hbackground, by simpa using hfont,
    by simpa using hopacity⟩

end Element

namespace Session

variable {s : Session} {n : Nat} {a : Action} {canvas : Canvas} {e : Element}

lemma Origin.styled (hs : ∀ d, s.Holds d → d.Styled) (h : s.Origin a canvas e) : e.Styled := by
  cases h with
  | held h => exact hs e h
  | incoming h => exact h.styled
  | created n kind p => exact (Element.styled_create n kind p s.canvas).fit s.canvas s.fonts
  | @copied a d h n =>
    obtain ⟨hcolor, hfont, hopacity⟩ := hs d h
    exact ⟨hcolor, hfont, hopacity⟩
  | edited h id edit => exact (hs _ h).changed (edit.changed _ _)
  | dragged h g p => exact (hs _ h).changed ((g.edit p).changed _ _)
  | fitted h canvas => exact (hs _ h).fit canvas s.fonts

/-- Every element of a session has a style. -/
lemma Reachable.styled {admits : Action → Prop} (h : Reachable admits s n) :
    ∀ e, s.Holds e → e.Styled :=
  h.forall_holds (P := fun _ e => e.Styled) (fun he => he.styled)
    (fun _ _ hd he => he.styled hd) rfl

/-- The style of an element comes back on every canvas. -/
lemma Reachable.styleReturns {admits : Action → Prop} (hs : Reachable admits s n)
    (he : s.Holds e) (htagged : e.kind.Tagged) (canvas : Canvas) (fonts : FontSizes) (i : Nat) :
    e.StyleReturns ((e.toEntry.reread.toElement canvas fonts i).fit canvas fonts) := by
  have hmenu : e.kind.isMenu = true → e.style = {} := fun hm => (hs.canonicalMenu e he hm).style
  exact ((hs.styled e he).styleReturns htagged hmenu i).fit canvas fonts

/-- A session can be saved, and every session can open what it saved. Every element that has a tag
keeps its color, its font and its opacity then, every button its background, and other kinds come
back without one. -/
theorem style_after_reopening (hs : Reachable Action.Regular s n) (hr : s.whole.InRange)
    (hf : s.fonts.Bounded) :
    ∃ text, s.perform n .exportText = (.ok (.text text, s.snapshot), n) ∧
      ∀ (t : Session) (k : Nat), ∃ t' k',
        t.perform k (.importText text) = (.ok (.nothing, t'), k') ∧
          s.whole.scenes.typed.Alike Element.StyleReturns t'.project.scenes := by
  refine ⟨s.whole.toText, perform_exportText hs.consistent n, fun t k => ?_⟩
  obtain ⟨t', k', himport, -, halike⟩ := exists_reopened hs hr hf t
    (fun e he htagged _ i => hs.styleReturns he htagged t.canvas s.fonts.reread i) k
  exact ⟨t', k', himport, halike⟩

/-- A red button whose edit is not stored yet, a faint timer, an element without a tag and fonts of
size zero, opened on a small canvas. -/
theorem style_after_reopening_red_button :
    let actions : List Action :=
      [.addElement .button ⟨10, 20⟩, .addElement (.ofTag "") ⟨10, 50⟩,
        .addElement (.ofTag "timer") ⟨10, 90⟩, .addScene, .switchTo "Scene 1",
        .setFontSizes ⟨0, 0, 0, 0⟩,
        .edit (.numbered "button" 0) (.background (some ⟨255, 0, 0⟩)),
        .edit (.numbered "timer" 2) (.opacity 7), .edit (.numbered "timer" 2) (.font .small)]
    let s := ((Session.new {} 0).1.run 0 actions).1
    let t := (Session.new { canvas := ⟨320, 200⟩ } 5).1
    Reachable Action.Regular s 4 ∧ s.whole.InRange ∧ s.fonts.Bounded ∧
      ∃ text, s.perform 4 .exportText = (.ok (.text text, s.snapshot), 4) ∧
        ∃ t' k', t.perform 5 (.importText text) = (.ok (.nothing, t'), k') ∧
          s.whole.scenes.typed.Alike Element.StyleReturns t'.project.scenes := by
  intro actions s t
  have hregular : ∀ a ∈ actions, a.Regular := by
    simp only [actions, List.forall_mem_cons, List.not_mem_nil, false_implies, implies_true,
      and_true]
    exact ⟨rfl, Kind.regular_ofTag "", Kind.regular_ofTag "timer", trivial, trivial, trivial,
      trivial, trivial, trivial⟩
  have hs : Reachable Action.Regular s 4 := (Reachable.new {} 0).run hregular
  have hr : s.whole.InRange := by decide +kernel
  have hf : s.fonts.Bounded := by decide +kernel
  obtain ⟨text, hexport, himport⟩ := style_after_reopening hs hr hf
  exact ⟨hs, hr, hf, text, hexport, himport t 5⟩

/-- A picture loses its background, an element without a tag is gone, and a button without a
background gets one. -/
theorem style_lost_by_reopening :
    let actions : List Action :=
      [.addElement (.ofTag "image") ⟨10, 20⟩, .addElement (.ofTag "") ⟨10, 20⟩,
        .addElement .button ⟨10, 20⟩,
        .edit (.numbered "image" 0) (.background (some ⟨255, 0, 0⟩)),
        .edit (.numbered "button" 2) (.background none)]
    let s := ((Session.new {} 0).1.run 0 actions).1
    let backgrounds (t : SceneTable) : List (String × List (Option Color)) :=
      t.scenes.map fun scene => (scene.name, scene.elements.map (·.style.background))
    Reachable Action.Regular s 3 ∧
      ∃ text, s.perform 3 .exportText = (.ok (.text text, s.snapshot), 3) ∧
        ∃ t' k', (Session.new {} 0).1.perform 0 (.importText text) = (.ok (.nothing, t'), k') ∧
          backgrounds s.whole.scenes = [("Scene 1", [some ⟨255, 0, 0⟩, none, none])] ∧
          backgrounds t'.project.scenes = [("Scene 1", [none, some .white])] := by
  intro actions s backgrounds
  have hregular : ∀ a ∈ actions, a.Regular := by
    simp only [actions, List.forall_mem_cons, List.not_mem_nil, false_implies, implies_true,
      and_true]
    exact ⟨Kind.regular_ofTag "image", Kind.regular_ofTag "", rfl, trivial, trivial⟩
  have hs : Reachable Action.Regular s 3 := (Reachable.new {} 0).run hregular
  obtain ⟨t', k', himport, -, halike⟩ := exists_reopened
    (R := fun e e' => e'.style.background = e.returnedBackground) hs (by decide +kernel)
    (by decide +kernel) (Session.new {} 0).1
    (fun e he htagged _ i => (hs.styleReturns he htagged _ _ i).background) 0
  have hreturned : s.whole.scenes.typed.scenes.map
      (fun scene => (scene.name, scene.elements.map Element.returnedBackground))
        = [("Scene 1", [none, some .white])] := by
    decide +kernel
  exact ⟨hs, s.whole.toText, perform_exportText hs.consistent 3, t', k', himport,
    by decide +kernel, halike.map_eq.trans hreturned⟩

end Session

end Storyboard
