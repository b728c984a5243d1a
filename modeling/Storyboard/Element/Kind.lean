import Storyboard.Canvas
import Storyboard.Text.Capital

/-!
# Kinds of elements

What an element is, with the data that only this kind has. Documents name kinds by tags; a tag
that is not known is kept, so that a document of a newer editor survives.
-/

namespace Storyboard

/-- The height of a menu bar, unless a document gives another one. -/
def menuHeight : Int := 50

inductive Kind
  | button
  /-- Text without a background. -/
  | label
  /-- A picture, given as data or by a file name. -/
  | image (source : Option String)
  | input
  /-- A place for a video whose path a variable may hold. -/
  | video (pathVariable : Option String)
  /-- The bar at the bottom with a button for each scene. -/
  | menu
  /-- Runs a command and lists the result that a variable holds. -/
  | collapsedList (command listVariable : String)
  | other (tag : String)
deriving DecidableEq, Repr

namespace Kind

/-- The kind of a tag, without data. -/
def ofTag (tag : String) : Kind :=
  if tag = "button" then .button
  else if tag = "label" then .label
  else if tag = "image" then .image none
  else if tag = "input" then .input
  else if tag = "video" then .video none
  else if tag = "menu" ∨ tag = "menu-element" then .menu
  else if tag = "collapsedlist" then .collapsedList "" ""
  else .other tag

/-- The tag that documents write. -/
def tag : Kind → String
  | .button => "button"
  | .label => "label"
  | .image _ => "image"
  | .input => "input"
  | .video _ => "video"
  | .menu => "menu"
  | .collapsedList _ _ => "collapsedlist"
  | .other tag => tag

/-- The text of a new element. -/
def displayName : Kind → String
  | .input | .menu => ""
  | .collapsedList _ _ => "Collapsed List"
  | k => .ofList (Text.capitalize k.tag.toList)

/-- Whether elements of the kind show text. -/
def hasText : Kind → Bool
  | .menu | .image _ => false
  | _ => true

/-- Whether elements of the kind have a background. -/
def hasBackground : Kind → Bool
  | .button => true
  | _ => false

def isMenu : Kind → Bool
  | .menu => true
  | _ => false

/-- Whether a missing side is measured from the text. -/
def measuresText : Kind → Bool
  | .button | .label => true
  | _ => false

/-- The size of a new element. -/
def defaultSize (canvas : Canvas) : Kind → Size
  | .button | .label => .px 120 40
  | .image _ => .px 100 100
  | .input => .px 150 40
  | .video _ => .px 200 150
  | .menu => .px canvas.width menuHeight
  | .collapsedList _ _ => .px 600 40
  | .other _ => .auto

end Kind

end Storyboard
