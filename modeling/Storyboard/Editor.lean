import Storyboard.Lint
import Storyboard.Number.Typed
import Storyboard.Session.Action

/-!
# The editor of a page

A session together with the gesture in progress, for a page that forwards events and shows what
comes back. Everything goes in and out as text; what is refused gives `false`.
-/

namespace Storyboard

open Json Text

structure Editor where
  session : Session
  gesture : Option Gesture := none
  /-- The number for the next element. -/
  next : Nat
deriving DecidableEq, Repr

namespace Editor

/-- An editor with a blank project whose first scene has a menu. -/
def new : Editor :=
  let (session, next) := Session.new { startupMenu := true } 0
  { session, next }

/-- A text, unless it is empty. -/
def nonEmpty (s : String) : Option String :=
  if s = "" then none else some s

variable (ed : Editor)

/-- Perform an action. Tells whether it was not refused. -/
def act (a : Action) : Bool × Editor :=
  match ed.session.perform ed.next a with
  | (.ok (_, session), next) => (true, { ed with session, next })
  | (.error _, next) => (false, { ed with next })

/-- Perform an action that is never refused. -/
def always (a : Action) : Editor :=
  (ed.act a).2

/-- Perform an action that gives a text. A refused one gives the empty text. -/
def ask (a : Action) : String × Editor :=
  match ed.session.perform ed.next a with
  | (.ok (.text s, session), next) => (s, { ed with session, next })
  | (.ok (_, session), next) => ("", { ed with session, next })
  | (.error _, next) => ("", { ed with next })

/-- Give up the gesture in progress. -/
def release : Editor :=
  { ed with gesture := none }

/-! ### Scenes -/

def currentScene : String :=
  ed.session.current

def sceneNamesText : String :=
  (Value.array (ed.session.sceneNames.map .string)).compact

def switchScene (name : String) : Bool × Editor :=
  ed.release.act (.switchTo name)

/-- Add a scene. Gives its name, or the empty text. -/
def addScene : String × Editor :=
  ed.release.ask .addScene

def renameScene (name : String) : Bool × Editor :=
  ed.act (.renameScene name)

def duplicateScene (name : String) : Bool × Editor :=
  ed.release.act (.duplicateScene name)

def deleteScene : Bool × Editor :=
  ed.release.act .deleteScene

/-- What a menu shows at a time of day. -/
def menuText (hours minutes : Nat) : String :=
  (Value.object
    [("buttons", .array (ed.session.menuButtons.map (·.toValue))),
      ("clock", .string (clockText hours minutes))]).compact

/-! ### Elements -/

/-- Create an element of a kind. Gives its name. -/
def createElement (tag : String) (p : Position) : String × Editor :=
  let kind := Kind.ofTag tag
  ((ed.session.newElement ed.next kind p).id.text, ed.always (.addElement kind p))

def removeElement (id : String) : Bool × Editor :=
  let id : ElementId := ⟨id⟩
  let ed := if ed.gesture.any (·.element = id) then ed.release else ed
  ed.act (.removeElement id)

/-- An element as the document writes it, with its name; a menu also shows its width. -/
def elementValue (e : Element) : Value :=
  let width : Value :=
    match e.size.width with
    | .px n => .int n
    | .auto => .null
  .object <| e.toEntry.members ++ ("id", .string e.id.text) ::
    (if e.kind.isMenu then [("width", width)] else [])

/-- The live elements. -/
def elementsText : String :=
  (Value.array (ed.session.live.map elementValue)).compact

/-- The edit that gives a property of an element a value, if there is such a property and the
value denotes one of its values. A background that denotes no color is taken away. -/
def propertyEdit (key value : String) : Option Edit :=
  if key = "text" then some (.text value)
  else if key = "color" then (Color.ofHex? value).map .color
  else if key = "bgColor" then some (.background (Color.ofHex? value))
  else if key = "font" then (FontCategory.ofName? value).map .font
  else if key = "opacity" then (Numeral.typed? value.toList).map .opacity
  else if key = "image" then some (.image (nonEmpty value))
  else if key = "videoVariable" then some (.video (nonEmpty value))
  else none

/-- Perform an edit, if there is one. -/
def tryEdit (id : String) (edit : Option Edit) : Bool × Editor :=
  match edit with
  | some edit => ed.act (.edit ⟨id⟩ edit)
  | none => (false, ed)

def setProperty (id key value : String) : Bool × Editor :=
  ed.tryEdit id (propertyEdit key value)

def setCollapsedList (id command listVariable : String) : Bool × Editor :=
  ed.tryEdit id (some (.collapsedList command listVariable))

/-- The edit that gives an element a trigger of a kind, or none for the empty name. -/
def triggerEdit (kind target value : String) : Option Edit :=
  if kind = "" then some (.trigger none)
  else (TriggerKind.ofName? kind).map fun k => .trigger (some (.ofParts target value k))

def setTrigger (id kind target value : String) : Bool × Editor :=
  ed.tryEdit id (triggerEdit kind target value)

/-! ### Gestures -/

/-- The pointer goes down on an element or on its resize handle. -/
def pointerDown (id : String) (p : Position) (resize : Bool) : Bool × Editor :=
  match ed.session.beginGesture ⟨id⟩ (if resize then .resize else .drag) p with
  | .ok g => (true, { ed with gesture := some g })
  | .error _ => (false, ed)

/-- The pointer moves. Tells whether an element has to be shown anew. -/
def pointerMove (p : Position) : Bool × Editor :=
  match ed.gesture with
  | some g => ed.act (.updateGesture g p)
  | none => (false, ed)

def pointerUp : Editor :=
  ed.release

/-! ### Variables -/

def variablesText : String :=
  (Value.object ed.session.project.vars.members).compact

def addVariable (name : String) : Bool × Editor :=
  ed.act (.addVariable name)

def editVariable (name value : String) : Bool × Editor :=
  ed.act (.editVariable name value)

def renameVariable (old new : String) : Bool × Editor :=
  ed.act (.renameVariable old new)

def deleteVariable (name : String) : Bool × Editor :=
  ed.act (.deleteVariable name)

/-- The text for hovering over an element, empty if it refers to no variable. -/
def tooltip (id : String) : String :=
  (ed.session.tooltip? ⟨id⟩).getD ""

/-- The texts for hovering over the elements that refer to variables. -/
def tooltipsText : String :=
  (Value.object (collapse (ed.session.previews.filterMap fun p =>
    p.2.tooltip.map fun t => (p.1.text, .string t)))).compact

/-! ### The document -/

/-- Take over the canvas size selector. -/
def setCanvas (preset width height : String) : Editor :=
  ed.release.always (.setCanvas (.ofSelector preset width height))

def canvasText : String :=
  let c := ed.session.canvas
  (Value.object [("width", .int c.width), ("height", .int c.height)]).compact

/-- Set the picture behind the canvas; the empty text clears it. -/
def setBackground (value : String) : Editor :=
  ed.always (.setBackground (nonEmpty value))

def setMetadata (title author description : String) : Editor :=
  ed.always (.setMetadata title author description)

def reset : Editor :=
  ed.release.always .reset

def exportFileName : String :=
  ed.session.config.exportFileName

/-- The text of the document. -/
def exportText : String × Editor :=
  ed.ask .exportText

/-- Open the document of a text. -/
def importText (text : String) : Bool × Editor :=
  ed.release.act (.importText text)

/-- A diagnostic as the page shows it. -/
def diagnosticValue (d : Diagnostic) : Value :=
  .object
    [("scene", .string d.scene),
      ("element", (d.element.map fun id => Value.string id.text).getD .null),
      ("message", .string d.message),
      ("severity", .string (if d.isWarning then "warning" else "info")),
      ("rule", .string d.rule)]

/-- Everything that lint finds in the document, with the live elements. -/
def lintText : String × Editor :=
  let ed := ed.always .snapshot
  ((Value.array (ed.session.project.lint.map diagnosticValue)).compact, ed)

end Editor

/-- Whether a text is a document: the number of its scenes, or what is wrong with it. -/
def validate (text : String) : Value :=
  match (Project.ofText {} 0 text).1 with
  | .ok p => .object [("ok", .bool true), ("scenes", .int p.scenes.size)]
  | .error e => .object [("ok", .bool false), ("error", .string e.message)]

end Storyboard
