import Storyboard.Element.Basic
import Storyboard.Number.Decimal

/-!
# Sizes and places of elements

A side without a number of its own is measured from the text of the element, and an element whose
canvas has changed is brought back inside. Text is measured in single precision: a character is
0.6 of the font size wide, a line 1.4 of it high.
-/

namespace Storyboard

/-! ### Text -/

/-- The padding on both sides of a text, together. -/
def textPadding : Int := 16

/-- A whole number in single precision. -/
def Single.ofNat (n : Nat) : Single :=
  .ofInt .single n

/-- The factor with some tenths, in single precision. -/
def Single.tenths (n : Nat) : Single :=
  Decimal.nearest .single false ⟨n, -1⟩

/-- A length in whole pixels, rounded up. -/
def Single.pixels (x : Single) : Int :=
  x.ceilWithin minCoordinate maxCoordinate

/-- The width and height of a line with some characters. The sum has no bound here: lines that with
their padding are wider than 32 bits can say are left out. -/
def textExtent (chars fontPx : Nat) : Int × Int :=
  let px := Single.ofNat fontPx
  let width := Single.pixels (((Single.ofNat chars).mul px).mul (Single.tenths 6)) + textPadding
  let height := Single.pixels (px.mul (Single.tenths 14))
  (max width 1, max height 1)

namespace Element

/-! ### Sizes -/

/-- What is measured for an element: its text, or its tag when it has none. -/
def sample (kind : Kind) (text : String) : String :=
  if text = "" then kind.tag else text

/-- The extent of what an element shows. -/
def measured (fonts : FontSizes) (e : Element) : Int × Int :=
  textExtent (sample e.kind e.text).length (fonts.px (e.style.font.getD .fallback))

/-- The size in pixels, with `auto` sides measured. -/
def resolvedSize (fonts : FontSizes) (e : Element) : Int × Int :=
  match e.size with
  | ⟨.px w, .px h⟩ => (w, h)
  | ⟨w, h⟩ => let m := e.measured fonts; (w.getD m.1, h.getD m.2)

/-! ### Places -/

/-- A menu of a height at the bottom of the canvas, over its full width. The difference has no bound
here: heights for which it does not fit 32 bits are left out. -/
def anchor (canvas : Canvas) (height : Int) (e : Element) : Element :=
  { e with size := .px canvas.width height, position := ⟨0, canvas.height - height⟩ }

/-- The element at the nearest position to `p` at which it stays on the canvas. -/
def moveTo (canvas : Canvas) (fonts : FontSizes) (p : Position) (e : Element) : Element :=
  let (w, h) := e.resolvedSize fonts
  { e with position := canvas.clamp w h p }

/-- The element brought back inside the canvas. A menu goes to the bottom again. -/
def fit (canvas : Canvas) (fonts : FontSizes) (e : Element) : Element :=
  if e.kind.isMenu then e.anchor canvas (e.size.height.getD menuHeight)
  else e.moveTo canvas fonts e.position

end Element

end Storyboard
