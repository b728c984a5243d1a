import Storyboard.Document.Decoding
import Storyboard.Document.Encoding
import Storyboard.Interpolation
import Storyboard.Session.Gesture
import Storyboard.Session.Menu

/-!
# Editing sessions

A session holds an open project and the elements of its active scene once more, live. Edits and
gestures touch the live elements only; the stored ones of the active scene are brought up to date
by a snapshot, which comes before everything that leaves the scene or writes the project.

An operation that is refused gives an error and no session, so there is nothing half done.
Operations that create elements are given the next unused number and say which one comes after.
-/

namespace Storyboard

open Text

structure SessionConfig where
  canvas : Canvas := {}
  fontSizes : FontSizes := {}
  /-- The least side that resizing leaves. -/
  minElementSize : Int := 50
  /-- The document that is opened at the start. -/
  documentPath : String := "player/jukaconfig.json"
  /-- The name under which documents are saved. -/
  exportFileName : String := "jukaconfig.json"
  /-- Whether the first scene of a blank project has a menu. -/
  startupMenu : Bool := false
deriving DecidableEq, Repr

/-- Why an operation is refused. -/
inductive SessionError
  | emptyName
  | duplicateScene (name : String)
  | duplicateVariable (name : String)
  | reservedVariable (name : String)
  | unknownScene (name : String)
  | unknownVariable (name : String)
  | lastScene
  | unknownElement (id : ElementId)
  | document (e : DocumentError)
deriving DecidableEq, Repr

def SessionError.message : SessionError → String
  | .emptyName => "name must not be empty"
  | .duplicateScene name => "a scene named " ++ quoted name ++ " already exists"
  | .duplicateVariable name => "a variable named " ++ quoted name ++ " already exists"
  | .reservedVariable name => quoted name ++ " is reserved for document metadata"
  | .unknownScene name => "no scene named " ++ quoted name
  | .unknownVariable name => "no variable named " ++ quoted name
  | .lastScene => "cannot delete the last scene"
  | .unknownElement id => "no element " ++ id.text ++ " on the canvas"
  | .document e => e.message

structure Session where
  project : Project
  /-- The name of the active scene. -/
  current : String
  /-- The elements of the active scene. -/
  live : List Element
  canvas : Canvas
  config : SessionConfig
deriving DecidableEq, Repr

namespace Session

variable (s : Session)

/-! ### Looking -/

/-- The pixel sizes of the fonts of the document. -/
def fonts : FontSizes :=
  s.project.metadata.fontSizes

def sceneNames : List String :=
  s.project.scenes.names

/-- The live element of a name. -/
def element? (id : ElementId) : Option Element :=
  s.live.find? (·.id = id)

/-- The live element of a name, or the error that there is none. -/
def element (id : ElementId) : Except SessionError Element :=
  match s.element? id with
  | some e => .ok e
  | none => .error (.unknownElement id)

/-- The buttons that every menu shows. -/
def menuButtons : List MenuButton :=
  MenuButton.row s.sceneNames s.current

/-- The text of a live element with its variables filled in. -/
def interpolation? (id : ElementId) : Option Interpolation :=
  (s.element? id).map fun e => .ofText s.project.vars e.text

/-- The text for hovering over a live element. -/
def tooltip? (id : ElementId) : Option String :=
  (s.interpolation? id).bind (·.tooltip)

/-- The live elements that refer to variables, with their texts filled in. -/
def previews : List (ElementId × Interpolation) :=
  (s.live.map fun e => (e.id, Interpolation.ofText s.project.vars e.text)).filter
    (·.2.hasVariables)

/-! ### Scenes -/

/-- Bring the stored elements of the active scene up to date. -/
def snapshot : Session :=
  { s with project.scenes := (s.project.scenes.store? s.current s.live).getD s.project.scenes }

/-- Take the stored elements of a scene as the live ones. -/
def load (name : String) : Session :=
  { s with current := name, live := s.project.scenes.elements name }

/-- Make a scene active. -/
def switchTo (name : String) : Except SessionError Session :=
  if s.project.scenes.contains name then .ok (s.snapshot.load name)
  else .error (.unknownScene name)

/-- Whether a scene could get the name. -/
def checkSceneName (name : String) : Except SessionError Unit :=
  if name = "" then .error .emptyName
  else if s.project.scenes.contains name then .error (.duplicateScene name)
  else .ok ()

/-! ### Elements -/

/-- A new element, within the canvas. -/
def newElement (n : Nat) (kind : Kind) (p : Position) : Element :=
  (Element.create n kind p s.canvas).fit s.canvas s.fonts

/-- Create an element in the active scene, live and stored. -/
def addElement (n : Nat) (kind : Kind) (p : Position) : Session :=
  let e := s.newElement n kind p
  { s with
    live := s.live ++ [e]
    project.scenes := s.project.scenes.modify s.current (· ++ [e]) }

/-- Remove an element from the active scene, live and stored. -/
def removeElement (id : ElementId) : Except SessionError (Element × Session) := do
  let e ← s.element id
  return (e, { s with
    live := s.live.eraseP (·.id = id)
    project.scenes := s.project.scenes.modify s.current (·.filter (·.id ≠ id)) })

/-- What the edits of the session depend on. -/
def editContext : EditContext :=
  ⟨s.canvas, s.fonts, s.config.minElementSize⟩

/-- Edit a live element. -/
def edit (id : ElementId) (edit : Edit) : Except SessionError Session := do
  let _ ← s.element id
  return { s with live := s.live.map fun e => if e.id = id then edit.apply s.editContext e else e }

/-- Begin a drag or a resize on a live element. -/
def beginGesture (id : ElementId) (kind : GestureKind) (pointer : Position) :
    Except SessionError Gesture := do
  let e ← s.element id
  return .start kind e pointer s.fonts

/-- Move the pointer of a gesture. -/
def updateGesture (g : Gesture) (pointer : Position) : Except SessionError Session :=
  s.edit g.element (g.edit pointer)

/-! ### Creating and deleting scenes -/

/-- Add a scene with a menu at the end and make it active. -/
def addScene (n : Nat) : Except SessionError (String × Session × Nat) :=
  let name := s.project.scenes.nextName
  match s.snapshot.project.scenes.insert? name [] with
  | none => .error (.duplicateScene name)
  | some scenes =>
    let opened := ({ s.snapshot with project.scenes := scenes } : Session).load name
    .ok (name, opened.addElement n .menu {}, n + 1)

/-- Give the active scene another name. -/
def renameScene (name : String) : Except SessionError Session := do
  s.checkSceneName name
  let scenes := s.snapshot.project.scenes
  return { s.snapshot with
    current := name
    project.scenes := (scenes.rename? s.current name).getD scenes }

/-- Copy the active scene under a name and make the copy active. -/
def duplicateScene (n : Nat) (name : String) : Except SessionError (Session × Nat) := do
  s.checkSceneName name
  let scenes := s.snapshot.project.scenes
  let copied := (scenes.insert? name (Element.copies n s.live)).getD scenes
  return (({ s.snapshot with project.scenes := copied } : Session).load name, n + s.live.length)

/-- Delete the active scene and make the one before it active, or else the one after it. -/
def deleteScene : Except SessionError (String × Session) :=
  if s.project.scenes.size ≤ 1 then .error .lastScene
  else
    match s.project.scenes.remove? s.current with
    | none => .error (.unknownScene s.current)
    | some (i, _, scenes) =>
      let name := (scenes.fallback i).name
      .ok (name, ({ s with project.scenes := scenes } : Session).load name)

/-! ### Variables -/

/-- Whether a variable could get the name. -/
def checkVariableName (name : String) : Except SessionError Unit :=
  if name = "" then .error .emptyName
  else if isReserved name then .error (.reservedVariable name)
  else if s.project.vars.contains name then .error (.duplicateVariable name)
  else .ok ()

/-- The session with other variables. -/
def withVariables (vars : VariableStore) : Session :=
  { s with project.vars := vars }

/-- Create a variable without a value. -/
def addVariable (name : String) : Except SessionError Session := do
  s.checkVariableName name
  let vars := s.project.vars
  return s.withVariables ((vars.add? name).getD vars)

/-- Set the value of a variable. -/
def editVariable (name value : String) : Except SessionError Session :=
  match s.project.vars.set? name value with
  | some vars => .ok (s.withVariables vars)
  | none => .error (.unknownVariable name)

/-- Give a variable another name. Texts that refer to it stay as they are. -/
def renameVariable (old new : String) : Except SessionError Session :=
  let vars := s.project.vars
  if vars.contains old then do
    s.checkVariableName new
    return s.withVariables ((vars.rename? old new).getD vars)
  else .error (.unknownVariable old)

/-- Delete a variable. Gives its last value. -/
def deleteVariable (name : String) : Except SessionError (String × Session) :=
  match s.project.vars.remove? name with
  | some (value, vars) => .ok (value, s.withVariables vars)
  | none => .error (.unknownVariable name)

/-! ### The document -/

def setMetadata (title author description : String) : Session :=
  { s with
    project.metadata.title := title
    project.metadata.author := author
    project.metadata.description := description }

/-- Set or clear the picture behind the canvas. -/
def setBackground (background : Option String) : Session :=
  { s with project.metadata.background := background.filter (· ≠ "") }

def setFontSizes (sizes : FontSizes) : Session :=
  { s with project.metadata.fontSizes := sizes }

/-- Change the canvas and bring every element back inside. -/
def setCanvas (canvas : Canvas) : Session :=
  { s with
    canvas := canvas
    live := s.live.map (·.fit canvas s.fonts)
    project.scenes := s.project.scenes.fit canvas s.fonts }

/-- A project with the fonts of a configuration and nothing in it. -/
def blankProject (config : SessionConfig) : Project :=
  { metadata := { fontSizes := config.fontSizes } }

/-- Go back to one scene with a menu. -/
def reset (n : Nat) : Session × Nat :=
  let blank : Session :=
    { s with project := blankProject s.config, current := SceneTable.defaultName, live := [] }
  (blank.addElement n .menu {}, n + 1)

/-- The text of the document, with the live elements, and the session after the snapshot. -/
def exportText : String × Session :=
  (s.snapshot.project.toText, s.snapshot)

/-- Put another project in the place of the open one. -/
def replaceProject (p : Project) : Session :=
  let fitted := p.fit s.canvas
  ({ s with project := fitted } : Session).load fitted.scenes.first.name

/-- Open the document of a text. -/
def importText (n : Nat) (text : String) : Except SessionError Session × Nat :=
  let (r, next) := Project.ofText s.canvas n text
  (match r with
    | .ok p => .ok (s.replaceProject p)
    | .error e => .error (.document e), next)

/-! ### Beginning -/

/-- A session with a blank project, and the next number. -/
def new (config : SessionConfig) (n : Nat) : Session × Nat :=
  let blank : Session :=
    { project := blankProject config, current := SceneTable.defaultName, live := [],
      canvas := config.canvas, config }
  if config.startupMenu then (blank.addElement n .menu {}, n + 1) else (blank, n)

/-- A session with a project, on its first scene. -/
def ofProject (config : SessionConfig) (p : Project) : Session :=
  let fitted := p.fit config.canvas
  ({ project := fitted, current := "", live := [], canvas := config.canvas, config } :
    Session).load fitted.scenes.first.name

end Session

end Storyboard
