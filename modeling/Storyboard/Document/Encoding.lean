import Storyboard.Document.Basic
import Storyboard.Project

/-!
# The document of a project

Writing is deterministic: scenes and elements in their order, variables in their order and then
the settings. Which fields an element has follows from its kind: a menu has its place and its
height, only a button has a background, a trigger has the fields of its own kind, and only kinds
that show text have one.
-/

namespace Storyboard

open Json

/-! ### Elements -/

/-- The entry with the fields of a trigger. -/
def Trigger.writeTo (e : ElementEntry) (t : Trigger) : ElementEntry :=
  let e := { e with trigger := some t.kind.name }
  match t with
  | .changeScene scene => { e with sceneChange := some scene }
  | .setVariable name value =>
    { e with variableChange := some name, variableChangeValue := some value }
  | .externalApp path returnVariable =>
    { e with externalAppPath := some path, externalAppReturn := some returnVariable }
  | .playVideo path => { e with videoPath := some path }
  | .playImage path => { e with imagePath := some path }

/-- The entry with the data of a kind. -/
def Kind.writeTo (e : ElementEntry) : Kind → ElementEntry
  | .collapsedList command listVariable =>
    { e with command := some command, listVariable := some listVariable }
  | .image source => { e with image := source }
  | .video pathVariable => { e with videoVariable := pathVariable }
  | _ => e

/-- A percentage as a fraction; more than everything is everything. -/
def opacityFraction (percent : Nat) : Double :=
  .nearest .double false ⟨min percent 100, 100⟩

/-- The entry of an element. -/
def Element.toEntry (e : Element) : ElementEntry :=
  let place : ElementEntry :=
    { kind := e.kind.tag, x := e.position.x, y := e.position.y, height := some e.size.height }
  if e.kind.isMenu then place
  else
    let styled : ElementEntry :=
      { place with
        width := some e.size.width
        color := e.style.color.map Color.toHex
        background := if e.kind.hasBackground then e.style.background.map Color.toHex else none
        font := e.style.font.map FontCategory.name
        opacity := some (opacityFraction e.style.opacity)
        text := if e.kind.hasText then some e.text else none }
    e.kind.writeTo (e.trigger.elim styled (Trigger.writeTo styled))

/-! ### Projects -/

namespace Metadata

/-- Font files as a value. -/
def fontFilesValue (files : List (String × String)) : Value :=
  .object (files.map fun f => (f.1, .string f.2))

/-- The settings that are written beside the variables. -/
def settings (m : Metadata) : List (String × Value) :=
  [("backgroundImage", .string (m.background.getD "")), ("fontSizes", m.fontSizes.toValue)]
    ++ (m.fontFiles.map fun files => ("fonts", fontFilesValue files)).toList
    ++ (m.buttonColor.map fun c => ("buttonColor", c.toValue)).toList
    ++ (m.labelColor.map fun c => ("labelColor", c.toValue)).toList

end Metadata

/-- The variables as members of an object. -/
def VariableStore.members (s : VariableStore) : List (String × Value) :=
  s.entries.map fun e => (e.1, .string e.2)

def Scene.toEntry (s : Scene) : SceneEntry :=
  ⟨s.name, s.elements.map (·.toEntry)⟩

namespace Project

/-- The document of a project. -/
def toDocument (p : Project) : Document where
  title := p.metadata.title
  author := p.metadata.author
  description := p.metadata.description
  vars := collapse (p.vars.members ++ p.metadata.settings)
  scenes := some (p.scenes.scenes.map (·.toEntry))

/-- The text of the document of a project. -/
def toText (p : Project) : String :=
  p.toDocument.toText

end Project

end Storyboard
