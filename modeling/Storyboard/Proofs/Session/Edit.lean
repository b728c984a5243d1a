import Storyboard.Proofs.Element.Basic
import Storyboard.Session.Edit

/-!
# What edits change

An edit changes one thing of an element, and which things there are is said once. So an element
keeps its name, and what it is apart from the data that only its kind has; and what an edit does to
a menu the rules of the kinds take back.
-/

namespace Storyboard

namespace Edit

/-- What becomes of an element when it is edited, before the rules of the kinds. -/
inductive Changed (ctx : EditContext) (e : Element) : Element → Prop
  | same : Changed ctx e e
  | position (p : Position) : Changed ctx e { e with position := p }
  | size (w h : Int) :
      Changed ctx e { e with size := .px (floorSize ctx.floor w h).1 (floorSize ctx.floor w h).2 }
  | text (s : String) : Changed ctx e { e with text := s }
  | color (c : Color) : Changed ctx e { e with style.color := some c }
  | background (c : Option Color) : Changed ctx e { e with style.background := c }
  | font (f : FontCategory) : Changed ctx e { e with style.font := some f }
  | opacity (percent : Nat) : Changed ctx e { e with style.opacity := percent }
  | trigger (t : Option Trigger) : Changed ctx e { e with trigger := t }
  | kind {k : Kind} (h : k.bare = e.kind.bare) : Changed ctx e { e with kind := k }

variable (ctx : EditContext) (e : Element)

lemma changed (edit : Edit) : Changed ctx e (edit.change ctx e) := by
  cases edit with
  | move p =>
    simp only [change]
    split
    · exact .same
    · exact .position _
  | resize w h =>
    simp only [change]
    split
    · exact .same
    · exact .size w h
  | text s => exact .text s
  | color c => exact .color c
  | background c => exact .background c
  | font f => exact .font f
  | opacity percent => exact .opacity _
  | trigger t => exact .trigger t
  | image source =>
    simp only [change]
    split
    · rename_i h
      exact .kind (by rw [h]; rfl)
    · exact .same
  | video pathVariable =>
    simp only [change]
    split
    · rename_i h
      exact .kind (by rw [h]; rfl)
    · exact .same
  | collapsedList command listVariable =>
    simp only [change]
    split
    · rename_i h
      exact .kind (by rw [h]; rfl)
    · exact .same

section Changed

variable {ctx e} {e' : Element} (h : Changed ctx e e')

include h

lemma Changed.id_eq : e'.id = e.id := by
  cases h <;> rfl

lemma Changed.bare_eq : e'.kind.bare = e.kind.bare := by
  cases h with
  | kind h => exact h
  | _ => rfl

lemma Changed.isMenu_eq : e'.kind.isMenu = e.kind.isMenu := by
  have hmenu := congrArg Kind.isMenu h.bare_eq
  rwa [Kind.isMenu_bare, Kind.isMenu_bare] at hmenu

end Changed

/-- An element stays what it is, whatever is edited. -/
@[simp] lemma apply_bare (edit : Edit) : (edit.apply ctx e).kind.bare = e.kind.bare := by
  rw [apply, Element.conform_kind, (edit.changed ctx e).bare_eq]

/-- An element keeps its name and its tag, whatever is edited. -/
@[simp] lemma apply_mark (edit : Edit) : (edit.apply ctx e).mark = e.mark := by
  have htag := congrArg Kind.tag (apply_bare ctx e edit)
  rw [Kind.tag_bare, Kind.tag_bare] at htag
  rw [Element.mark, Element.mark, htag, apply, Element.conform_id,
    (edit.changed ctx e).id_eq]

@[simp] lemma apply_id (edit : Edit) : (edit.apply ctx e).id = e.id :=
  congrArg Prod.fst (apply_mark ctx e edit)

@[simp] lemma apply_isMenu (edit : Edit) : (edit.apply ctx e).kind.isMenu = e.kind.isMenu := by
  rw [apply, Element.conform_kind, (edit.changed ctx e).isMenu_eq]

variable {e}

/-- An edit of a menu comes to nothing but the rules of its kind. -/
lemma apply_of_menu (h : e.kind.isMenu = true) (edit : Edit) : edit.apply ctx e = e.conform := by
  obtain ⟨id, kind⟩ := e
  obtain rfl := Kind.isMenu_iff.mp h
  cases edit <;> rfl

/-- A move places an element that is no menu, and the rules of the kinds see to the rest. -/
lemma apply_move (h : e.kind.isMenu = false) (p : Position) :
    (Edit.move p).apply ctx e = { e.conform with
      position := ctx.canvas.clamp (e.resolvedSize ctx.fonts).1 (e.resolvedSize ctx.fonts).2 p } := by
  rw [apply, change, if_neg (by simp [h])]
  exact Element.conform_withPosition e _

/-- A resize gives a size to an element that is no menu, and the rules of the kinds see to the
rest. -/
lemma apply_resize (h : e.kind.isMenu = false) (width height : Int) :
    (Edit.resize width height).apply ctx e = { e.conform with
      size := .px (max width ctx.floor) (max height ctx.floor) } := by
  rw [apply, change, if_neg (by simp [h])]
  exact Element.conform_withSize e _

end Edit

end Storyboard
