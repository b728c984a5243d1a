import Storyboard.Element.Layout

/-!
# Edits

A change of one property of one element. Whatever is edited, the element keeps the rules of its
kind afterwards.
-/

namespace Storyboard

inductive Edit
  /-- Move to a position, within the canvas. -/
  | move (p : Position)
  /-- Change the size, down to the resize floor. -/
  | resize (width height : Int)
  | text (s : String)
  | color (c : Color)
  | background (c : Option Color)
  | font (f : FontCategory)
  /-- Set the percentage, between nothing and everything. -/
  | opacity (percent : Int)
  | trigger (t : Option Trigger)
  | image (source : Option String)
  | video (pathVariable : Option String)
  | collapsedList (command listVariable : String)
deriving DecidableEq, Repr

/-- What edits depend on besides the element. -/
structure EditContext where
  canvas : Canvas
  fonts : FontSizes
  /-- The least side that resizing leaves. -/
  floor : Int
deriving DecidableEq, Repr

namespace Edit

/-- The edit without the rules of the kinds. A menu stays where it is, and data that belongs to
one kind is ignored by the others. -/
def change (ctx : EditContext) (e : Element) : Edit → Element
  | .move p => if e.kind.isMenu then e else e.moveTo ctx.canvas ctx.fonts p
  | .resize w h =>
    if e.kind.isMenu then e
    else
      let (w, h) := floorSize ctx.floor w h
      { e with size := .px w h }
  | .text s => { e with text := s }
  | .color c => { e with style.color := some c }
  | .background c => { e with style.background := c }
  | .font f => { e with style.font := some f }
  | .opacity percent => { e with style.opacity := (Binary.clip 0 100 percent).toNat }
  | .trigger t => { e with trigger := t }
  | .image source =>
    match e.kind with
    | .image _ => { e with kind := .image source }
    | _ => e
  | .video pathVariable =>
    match e.kind with
    | .video _ => { e with kind := .video pathVariable }
    | _ => e
  | .collapsedList command listVariable =>
    match e.kind with
    | .collapsedList _ _ => { e with kind := .collapsedList command listVariable }
    | _ => e

/-- The element after an edit. -/
def apply (ctx : EditContext) (e : Element) (edit : Edit) : Element :=
  (edit.change ctx e).conform

end Edit

end Storyboard
