import Storyboard.Text.Blank
import Storyboard.Text.Digits

/-!
# The canvas

The surface on which elements are placed, in pixels from the top left corner, and the rule that
keeps a box inside it.
-/

namespace Storyboard

open Text

/-- The least coordinate that a document can hold. -/
def minCoordinate : Int := -2147483648

/-- The largest coordinate that a document can hold. -/
def maxCoordinate : Int := 2147483647

structure Canvas where
  width : Int := 1280
  height : Int := 720
deriving DecidableEq, Repr, Inhabited

structure Position where
  x : Int := 0
  y : Int := 0
deriving DecidableEq, Repr, Inhabited

/-- One side of an element, or `auto` as long as its content decides. -/
inductive Dimension
  | px (n : Int)
  | auto
deriving DecidableEq, Repr

namespace Dimension

def px? : Dimension → Option Int
  | .px n => some n
  | .auto => none

/-- The side in pixels, when `n` is what its content takes. -/
def getD (d : Dimension) (n : Int) : Int :=
  d.px?.getD n

end Dimension

structure Size where
  width : Dimension
  height : Dimension
deriving DecidableEq, Repr

namespace Size

def px (width height : Int) : Size :=
  ⟨.px width, .px height⟩

def auto : Size :=
  ⟨.auto, .auto⟩

end Size

/-! ### Presets -/

namespace Canvas

/-- The side at the start of a text, and what follows its digits. -/
def spanSide (s : List Char) : Option (Int × List Char) :=
  let (digits, rest) := spanDigits s
  if digits = [] then none
  else
    let n : Int := ofDigits digits
    if n ≤ maxCoordinate then some (n, rest) else none

/-- The sides at the start of a text such as `1280x720`, and what follows them. -/
def spanSides (s : List Char) : Option (Canvas × List Char) := do
  let (width, r) ← spanSide s
  match r with
  | 'x' :: r | 'X' :: r =>
    let (height, r) ← spanSide r
    return (⟨width, height⟩, r)
  | _ => none

/-- The canvas of a text such as `1280x720`; both sides have to be positive. -/
def ofPreset? (s : String) : Option Canvas :=
  match spanSides (trim s.toList) with
  | some (c, []) => if 0 < c.width ∧ 0 < c.height then some c else none
  | _ => none

/-- The positive number in a field for one side. -/
def ofField? (s : String) : Option Int :=
  match spanSide (trim s.toList) with
  | some (n, []) => if 0 < n then some n else none
  | _ => none

/-- The canvas that a selector and its two fields choose. The fields count for the entry
`custom`; whatever holds no size gives the usual one. -/
def ofSelector (preset width height : String) : Canvas :=
  if preset = "custom" then
    ⟨(ofField? width).getD ({} : Canvas).width, (ofField? height).getD ({} : Canvas).height⟩
  else (ofPreset? preset).getD {}

/-- The canvas as a preset. -/
def presetName (c : Canvas) : String :=
  .ofList (integerText c.width ++ 'x' :: integerText c.height)

/-! ### Keeping a box inside -/

/-- The coordinate nearest to `i` at which a box of a length stays within an extent. A box that
is too long starts at zero. -/
def clampSide (extent length i : Int) : Int :=
  max (min i (extent - length)) 0

/-- The position nearest to `p` at which a box stays on the canvas. -/
def clamp (c : Canvas) (width height : Int) (p : Position) : Position :=
  ⟨clampSide c.width width p.x, clampSide c.height height p.y⟩

end Canvas

/-- Sides of at least the resize floor. -/
def floorSize (floor width height : Int) : Int × Int :=
  (max width floor, max height floor)

end Storyboard
