import Storyboard.Session.Edit

/-!
# Gestures

A drag or a resize in progress. It remembers where it started, so that the element follows the
pointer whatever positions are left out on the way.
-/

namespace Storyboard

inductive GestureKind
  | drag
  | resize
deriving DecidableEq, Repr

structure Gesture where
  element : ElementId
  kind : GestureKind
  /-- Where the pointer was at the start. -/
  pointer : Position
  /-- Where the element was at the start. -/
  position : Position
  /-- How large the element was at the start. -/
  size : Int × Int
deriving DecidableEq, Repr

namespace Gesture

/-- Begin a gesture on an element. -/
def start (kind : GestureKind) (e : Element) (pointer : Position) (fonts : FontSizes) : Gesture :=
  { element := e.id, kind, pointer, position := e.position, size := e.resolvedSize fonts }

/-- The edit for the pointer at a position. Sums and differences have no bound here: positions for
which one of them does not fit 32 bits are left out. -/
def edit (g : Gesture) (p : Position) : Edit :=
  let dx := p.x - g.pointer.x
  let dy := p.y - g.pointer.y
  match g.kind with
  | .drag => .move ⟨g.position.x + dx, g.position.y + dy⟩
  | .resize => .resize (g.size.1 + dx) (g.size.2 + dy)

end Gesture

end Storyboard
