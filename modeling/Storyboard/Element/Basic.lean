import Storyboard.Color
import Storyboard.Element.Id
import Storyboard.Element.Kind
import Storyboard.Element.Trigger
import Storyboard.Font

/-!
# Elements

One placed item of a scene. Elements are plain values: a copy of a list of elements is a snapshot
that no later edit reaches.
-/

namespace Storyboard

/-- How an element looks. -/
structure Style where
  color : Option Color := none
  background : Option Color := none
  font : Option FontCategory := none
  /-- Percentage. -/
  opacity : Nat := 100
deriving DecidableEq, Repr

structure Element where
  id : ElementId
  kind : Kind
  position : Position
  size : Size
  /-- The text as it was typed; it may refer to variables. -/
  text : String
  style : Style
  trigger : Option Trigger
deriving DecidableEq, Repr

namespace Element

/-- The rules of the kinds: a label has no background, a menu has no text, style or trigger, and
no element is more than opaque. -/
def conform (e : Element) : Element :=
  let e :=
    match e.kind with
    | .label => { e with style.background := none }
    | .menu => { e with text := "", style := {}, trigger := none }
    | _ => e
  { e with style.opacity := min e.style.opacity 100 }

/-- The style of a new element. -/
def newStyle (kind : Kind) : Style where
  color := some .black
  background := if kind.hasBackground then some .white else none
  font := some .fallback

/-- A new element with the number `n`. A menu lies at the bottom of the canvas wherever it is put;
canvases for which this place does not fit 32 bits are left out. -/
def create (n : Nat) (kind : Kind) (p : Position) (canvas : Canvas) : Element :=
  let id := ElementId.numbered kind.tag n
  let size := kind.defaultSize canvas
  if kind.isMenu then
    { id, kind, size, position := ⟨0, canvas.height - menuHeight⟩, text := "", style := {},
      trigger := none }
  else
    conform
      { id, kind, size, position := p, text := kind.displayName, style := newStyle kind,
        trigger := none }

/-- The element under the number `n`. -/
def renumber (n : Nat) (e : Element) : Element :=
  { e with id := .numbered e.kind.tag n }

/-- Copies of elements, numbered from `n` on. -/
def copies (n : Nat) (es : List Element) : List Element :=
  (es.zipIdx n).map fun (e, i) => e.renumber i

end Element

end Storyboard
