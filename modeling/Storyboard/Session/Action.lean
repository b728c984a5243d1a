import Storyboard.Session.Basic

/-!
# Actions

The steps of which the history of a session consists, with everything that a caller chooses. A
step is performed or refused as a whole.
-/

namespace Storyboard

inductive Action
  | addElement (kind : Kind) (p : Position)
  | removeElement (id : ElementId)
  | edit (id : ElementId) (edit : Edit)
  | updateGesture (g : Gesture) (pointer : Position)
  | switchTo (name : String)
  | addScene
  | renameScene (name : String)
  | duplicateScene (name : String)
  | deleteScene
  | snapshot
  | addVariable (name : String)
  | editVariable (name value : String)
  | renameVariable (old new : String)
  | deleteVariable (name : String)
  | setMetadata (title author description : String)
  | setBackground (background : Option String)
  | setFontSizes (sizes : FontSizes)
  | setCanvas (canvas : Canvas)
  | reset
  | exportText
  | importText (text : String)
deriving DecidableEq, Repr

/-- What a performed action gives besides the new session. -/
inductive Outcome
  | nothing
  | id (id : ElementId)
  | element (e : Element)
  | text (s : String)
deriving DecidableEq, Repr

/-- The outcome of an action and the new session, unless the action is refused. -/
abbrev ActionResult := Except SessionError (Outcome × Session)

namespace Session

/-- The result of an action that gives nothing besides the session. -/
def quiet (r : Except SessionError Session) : ActionResult :=
  r.map fun s => (.nothing, s)

/-- The result of an action that gives a text. -/
def telling (r : Except SessionError (String × Session)) : ActionResult :=
  r.map fun (text, s) => (.text text, s)

/-- Perform an action, with the next unused number. Gives the next unused number after it, which
a document that is refused has moved on too. -/
def perform (s : Session) (n : Nat) : Action → ActionResult × Nat
  | .addElement kind p => (.ok (.id (s.newElement n kind p).id, s.addElement n kind p), n + 1)
  | .removeElement id => ((s.removeElement id).map fun (e, s) => (.element e, s), n)
  | .edit id edit => (quiet (s.edit id edit), n)
  | .updateGesture g p => (quiet (s.updateGesture g p), n)
  | .switchTo name => (quiet (s.switchTo name), n)
  | .addScene =>
    match s.addScene n with
    | .ok (name, s, next) => (.ok (.text name, s), next)
    | .error e => (.error e, n)
  | .renameScene name => (quiet (s.renameScene name), n)
  | .duplicateScene name =>
    match s.duplicateScene n name with
    | .ok (s, next) => (.ok (.nothing, s), next)
    | .error e => (.error e, n)
  | .deleteScene => (telling s.deleteScene, n)
  | .snapshot => (quiet (.ok s.snapshot), n)
  | .addVariable name => (quiet (s.addVariable name), n)
  | .editVariable name value => (quiet (s.editVariable name value), n)
  | .renameVariable old new => (quiet (s.renameVariable old new), n)
  | .deleteVariable name => (telling (s.deleteVariable name), n)
  | .setMetadata title author description =>
    (quiet (.ok (s.setMetadata title author description)), n)
  | .setBackground background => (quiet (.ok (s.setBackground background)), n)
  | .setFontSizes sizes => (quiet (.ok (s.setFontSizes sizes)), n)
  | .setCanvas canvas => (quiet (.ok (s.setCanvas canvas)), n)
  | .reset => (quiet (.ok (s.reset n).1), (s.reset n).2)
  | .exportText => (telling (.ok s.exportText), n)
  | .importText text => (quiet (s.importText n text).1, (s.importText n text).2)

end Session

end Storyboard
