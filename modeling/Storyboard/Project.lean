import Storyboard.Scene
import Storyboard.Variables

/-!
# Projects

Everything that a document says: its metadata, its variables and its scenes.
-/

namespace Storyboard

structure Metadata where
  title : String := ""
  author : String := ""
  description : String := ""
  /-- The picture behind the canvas, as data or as a file name. -/
  background : Option String := none
  fontSizes : FontSizes := {}
  /-- The files of named fonts, in the order of their names. -/
  fontFiles : Option (List (String × String)) := none
  buttonColor : Option Color := none
  labelColor : Option Color := none
deriving DecidableEq, Repr

structure Project where
  metadata : Metadata := {}
  vars : VariableStore := {}
  scenes : SceneTable := .initial
deriving DecidableEq, Repr

/-- Bring every element back inside the canvas. -/
def Project.fit (canvas : Canvas) (p : Project) : Project :=
  { p with scenes := p.scenes.fit canvas p.metadata.fontSizes }

end Storyboard
