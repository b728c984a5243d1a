import Storyboard.Session.Action

/-!
# Actions in place

The actions once more, as sequences of changes to one session in the order in which they are made.
A change stays when an error follows it, and the answer of an inner operation that may refuse is
often left out of account; so here it shows what has to be checked before the first change.
-/

namespace Storyboard

/-- A session that is changed in place, and the next unused number. -/
structure Desk where
  session : Session
  next : Nat
deriving DecidableEq, Repr

/-- Changes in place, up to a result or an error. -/
abbrev InPlace := EStateM SessionError Desk

namespace InPlace

/-- The session as it stands. -/
def session : InPlace Session :=
  return (← get).session

def change (f : Session → Session) : InPlace Unit :=
  modify fun d => { d with session := f d.session }

/-- Use up numbers. Gives the first of them. -/
def take (count : Nat) : InPlace Nat :=
  modifyGet fun d => (d.next, { d with next := d.next + count })

/-- Go on with a result, or stop with an error. -/
def require {α : Type} : Except SessionError α → InPlace α
  | .ok x => pure x
  | .error e => throw e

/-- Stop with an error unless a condition holds. -/
def ensure (p : Bool) (e : SessionError) : InPlace Unit :=
  if p then pure () else throw e

/-- Change the scenes unless that is refused. Gives whether they were changed. -/
def tryScenes (f : SceneTable → Option SceneTable) : InPlace Bool := do
  match f (← session).project.scenes with
  | some scenes =>
    change ({ · with project.scenes := scenes })
    return true
  | none => return false

/-- Change the variables unless that is refused. Gives whether they were changed. -/
def tryVariables (f : VariableStore → Option VariableStore) : InPlace Bool := do
  match f (← session).project.vars with
  | some vars =>
    change (·.withVariables vars)
    return true
  | none => return false

/-! ### Scenes -/

def snapshot : InPlace Unit := do
  let s ← session
  let _ ← tryScenes (·.store? s.current s.live)

def switchTo (name : String) : InPlace Unit := do
  ensure ((← session).project.scenes.contains name) (.unknownScene name)
  snapshot
  change (·.load name)

def addElement (kind : Kind) (p : Position) : InPlace ElementId := do
  let s ← session
  let e := s.newElement (← take 1) kind p
  change fun s => { s with project.scenes := s.project.scenes.modify s.current (· ++ [e]) }
  change fun s => { s with live := s.live ++ [e] }
  return e.id

def addScene : InPlace String := do
  let scenes := (← session).project.scenes
  let name := scenes.nextName
  ensure (!scenes.contains name) (.duplicateScene name)
  snapshot
  let _ ← tryScenes (·.insert? name [])
  change (·.load name)
  let _ ← addElement .menu {}
  return name

def renameScene (name : String) : InPlace Unit := do
  require ((← session).checkSceneName name)
  snapshot
  let old := (← session).current
  change ({ · with current := name })
  let _ ← tryScenes (·.rename? old name)

def duplicateScene (name : String) : InPlace Unit := do
  require ((← session).checkSceneName name)
  snapshot
  let live := (← session).live
  let copies := Element.copies (← take live.length) live
  let _ ← tryScenes (·.insert? name copies)
  change (·.load name)

def deleteScene : InPlace String := do
  let s ← session
  ensure (1 < s.project.scenes.size) .lastScene
  match s.project.scenes.remove? s.current with
  | none => throw (.unknownScene s.current)
  | some (i, _, scenes) =>
    change ({ · with project.scenes := scenes })
    let name := (scenes.fallback i).name
    change (·.load name)
    return name

/-! ### Elements -/

def removeElement (id : ElementId) : InPlace Element := do
  let e ← require ((← session).element id)
  change fun s =>
    { s with project.scenes := s.project.scenes.modify s.current (·.filter (·.id ≠ id)) }
  change fun s => { s with live := s.live.eraseP (·.id = id) }
  return e

def edit (id : ElementId) (edit : Edit) : InPlace Unit := do
  let _ ← require ((← session).element id)
  change fun s =>
    { s with live := s.live.map fun e => if e.id = id then edit.apply s.editContext e else e }

/-! ### Variables -/

def addVariable (name : String) : InPlace Unit := do
  require ((← session).checkVariableName name)
  let _ ← tryVariables (·.add? name)

def editVariable (name value : String) : InPlace Unit := do
  ensure (← tryVariables (·.set? name value)) (.unknownVariable name)

def renameVariable (old new : String) : InPlace Unit := do
  ensure ((← session).project.vars.contains old) (.unknownVariable old)
  require ((← session).checkVariableName new)
  let _ ← tryVariables (·.rename? old new)

def deleteVariable (name : String) : InPlace String := do
  match (← session).project.vars.remove? name with
  | none => throw (.unknownVariable name)
  | some (value, vars) =>
    change (·.withVariables vars)
    return value

/-! ### The document -/

def setCanvas (canvas : Canvas) : InPlace Unit := do
  let fonts := (← session).fonts
  change ({ · with canvas })
  change fun s => { s with live := s.live.map (·.fit canvas fonts) }
  change fun s => { s with project.scenes := s.project.scenes.fit canvas fonts }

def reset : InPlace Unit := do
  change fun s => { s with project := Session.blankProject s.config }
  change ({ · with current := SceneTable.defaultName })
  change ({ · with live := [] })
  let _ ← addElement .menu {}

def exportText : InPlace String := do
  snapshot
  return (← session).project.toText

def importText (text : String) : InPlace Unit := do
  let d ← get
  let (r, next) := Project.ofText d.session.canvas d.next text
  set { d with next }
  match r with
  | .error e => throw (.document e)
  | .ok p =>
    let fitted := p.fit d.session.canvas
    change ({ · with project := fitted })
    change (·.load fitted.scenes.first.name)

end InPlace

/-- Carry out an action, change by change. -/
def Action.carryOut : Action → InPlace Outcome
  | .addElement kind p => return .id (← InPlace.addElement kind p)
  | .removeElement id => return .element (← InPlace.removeElement id)
  | .edit id e => do InPlace.edit id e; return .nothing
  | .updateGesture g p => do InPlace.edit g.element (g.edit p); return .nothing
  | .switchTo name => do InPlace.switchTo name; return .nothing
  | .addScene => return .text (← InPlace.addScene)
  | .renameScene name => do InPlace.renameScene name; return .nothing
  | .duplicateScene name => do InPlace.duplicateScene name; return .nothing
  | .deleteScene => return .text (← InPlace.deleteScene)
  | .snapshot => do InPlace.snapshot; return .nothing
  | .addVariable name => do InPlace.addVariable name; return .nothing
  | .editVariable name value => do InPlace.editVariable name value; return .nothing
  | .renameVariable old new => do InPlace.renameVariable old new; return .nothing
  | .deleteVariable name => return .text (← InPlace.deleteVariable name)
  | .setMetadata title author description => do
    InPlace.change (·.setMetadata title author description)
    return .nothing
  | .setBackground background => do InPlace.change (·.setBackground background); return .nothing
  | .setFontSizes sizes => do InPlace.change (·.setFontSizes sizes); return .nothing
  | .setCanvas canvas => do InPlace.setCanvas canvas; return .nothing
  | .reset => do InPlace.reset; return .nothing
  | .exportText => return .text (← InPlace.exportText)
  | .importText text => do InPlace.importText text; return .nothing

end Storyboard
