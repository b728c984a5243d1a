import Storyboard.Document.Basic
import Storyboard.Project
import Storyboard.Text.Quoted

/-!
# The project of a document

A document is turned into a project as a whole before anything of it is used. What is missing is
filled in as for a new element, and what does not denote anything counts as missing. Only two
things make a document unusable: that it has no list of scenes, and that two of its scenes have
the same name.

Every element that is made gets a new number, also in a document that is refused afterwards; so
the functions here take the next number and say which one comes after.
-/

namespace Storyboard

open Json

/-- Why a text gives no project. -/
inductive DocumentError
  | json (e : Json.Error)
  | missingScenes
  | duplicateScenes (names : List String)
deriving DecidableEq, Repr

/-- The message of an error. -/
def DocumentError.message : DocumentError → String
  | .json _ => "malformed document"
  | .missingScenes => "document has no `scenes` list"
  | .duplicateScenes names => "invalid document: duplicate scene names in " ++ Text.quotedList names

/-! ### Elements -/

namespace ElementEntry

/-- The kind of an entry, with its data. -/
def toKind (e : ElementEntry) : Kind :=
  match Kind.ofTag e.kind with
  | .image _ => .image (e.image.filter (· ≠ ""))
  | .video _ => .video e.videoVariable
  | .collapsedList _ _ => .collapsedList (e.command.getD "") (e.listVariable.getD "")
  | k => k

/-- A fraction as a percentage, between nothing and everything. -/
def percent (x : Double) : Nat :=
  ((x.mul (.ofInt .double 100)).roundWithin 0 100).toNat

/-- The color of a text, or another one where it denotes none. -/
def colorOr (fallback : Color) (s : Option String) : Color :=
  (s.bind Color.ofHex?).getD fallback

/-- The style of an entry. -/
def toStyle (kind : Kind) (e : ElementEntry) : Style where
  color := some (colorOr .black e.color)
  background := if kind.hasBackground then some (colorOr .white e.background) else none
  font := some ((e.font.bind FontCategory.ofName?).getD .fallback)
  opacity := (e.opacity.map percent).getD 100

/-- The text of an entry. -/
def toLabel (kind : Kind) (e : ElementEntry) : String :=
  if kind.hasText then e.text.getD kind.displayName else ""

/-- A side: what the entry says if it is positive, the extent of the text if the kind goes by it,
or else the usual one. -/
def side (kind : Kind) (given : Option Dimension) (measured : Int) (usual : Dimension)
    (fallback : Int) : Int :=
  match given with
  | some (.px n) => if 0 < n then n else usual.getD fallback
  | some .auto => if kind.measuresText then measured else usual.getD fallback
  | none => usual.getD fallback

/-- The width of an element that nothing else determines. -/
def fallbackWidth : Int := 100

/-- The height of an element that nothing else determines. -/
def fallbackHeight : Int := 40

/-- The size of an entry. -/
def toSize (canvas : Canvas) (fonts : FontSizes) (kind : Kind) (text : String) (style : Style)
    (e : ElementEntry) : Size :=
  let usual := kind.defaultSize canvas
  let m := textExtent (Element.sample kind text).length (fonts.px (style.font.getD .fallback))
  .px (side kind e.width m.1 usual.width fallbackWidth)
    (side kind e.height m.2 usual.height fallbackHeight)

/-- What a kind of trigger has as its target and its value: the fields of its own, or else those
of old documents. -/
def triggerParts (e : ElementEntry) : TriggerKind → String × String
  | .changeScene => (target e.sceneChange, "")
  | .setVariable => (target e.variableChange, value e.variableChangeValue)
  | .externalApp => (target e.externalAppPath, value e.externalAppReturn)
  | .playVideo => (target e.videoPath, "")
  | .playImage => (target e.imagePath, "")
where
  /-- A target, or else the one of old documents. -/
  target (own : Option String) : String := (own.or e.triggerTarget).getD ""
  /-- A value, or else the one of old documents. -/
  value (own : Option String) : String := (own.or e.triggerValue).getD ""

/-- The trigger of an entry, if it names one. -/
def toTrigger (e : ElementEntry) : Option Trigger :=
  (e.trigger.bind TriggerKind.ofName?).map fun k =>
    let parts := e.triggerParts k
    .ofParts parts.1 parts.2 k

/-- The height of a menu. -/
def toMenuHeight (e : ElementEntry) : Int :=
  match e.height with
  | some (.px h) => if 0 < h then h else menuHeight
  | _ => menuHeight

/-- The element of an entry, with the number `n`. -/
def toElement (canvas : Canvas) (fonts : FontSizes) (n : Nat) (e : ElementEntry) : Element :=
  let kind := e.toKind
  let new := Element.create n kind ⟨e.x, e.y⟩ canvas
  if kind.isMenu then new.anchor canvas e.toMenuHeight
  else
    let style := e.toStyle kind
    let text := e.toLabel kind
    let size := e.toSize canvas fonts kind text style
    Element.conform { new with size, text, style, trigger := e.toTrigger }

end ElementEntry

/-! ### Scenes -/

namespace SceneEntry

/-- The entries that name a kind. Others are left out. -/
def typed (s : SceneEntry) : List ElementEntry :=
  s.elements.filter (·.kind ≠ "")

/-- The scene of an entry, with its elements numbered from `n` on. -/
def toScene (canvas : Canvas) (fonts : FontSizes) (n : Nat) (s : SceneEntry) : Scene :=
  ⟨s.name, (s.typed.zipIdx n).map fun (e, i) => e.toElement canvas fonts i⟩

/-- The scenes of some entries, numbered from `n` on, and the next number. -/
def toScenes (canvas : Canvas) (fonts : FontSizes) : Nat → List SceneEntry → List Scene × Nat
  | n, [] => ([], n)
  | n, s :: ss =>
    let (scenes, next) := toScenes canvas fonts (n + s.typed.length) ss
    (s.toScene canvas fonts n :: scenes, next)

end SceneEntry

/-! ### Variables and settings -/

/-- The font files of a value, in the order of their names. -/
def Metadata.fontFilesOf : Value → Option (List (String × String))
  | .object ms =>
    let files := ms.filterMap fun m => m.2.scalarText?.map fun s => (m.1, s)
    some (files.mergeSort fun a b => a.1 ≤ b.1)
  | _ => none

/-- The metadata with a setting taken over; nothing if the name is no setting. -/
def Metadata.set? (m : Metadata) (name : String) (v : Value) : Option Metadata :=
  if name = "backgroundImage" then some { m with background := v.scalarText?.filter (· ≠ "") }
  else if name = "fontSizes" then some { m with fontSizes := .ofValue v }
  else if name = "fonts" then some { m with fontFiles := Metadata.fontFilesOf v }
  else if name = "buttonColor" then some { m with buttonColor := Color.ofValue? v }
  else if name = "labelColor" then some { m with labelColor := Color.ofValue? v }
  else none

/-- The text that a variable takes from a value. Arrays and objects give no variable. -/
def VariableStore.textOf (v : Value) : Option String :=
  if v.isNull then some "" else v.scalarText?

/-- The store with a variable of a document. -/
def VariableStore.take (s : VariableStore) (name : String) (v : Value) : VariableStore :=
  match textOf v with
  | some text => s.insert name text
  | none => s

namespace Document

/-- The variables and the settings of a document, apart from each other. -/
def split (members : List (String × Value)) : VariableStore × Metadata :=
  members.foldl
    (fun (s, m) (name, v) =>
      match m.set? name v with
      | some m => (s, m)
      | none => (s.take name v, m))
    ({}, {})

/-- The project of a document, with its elements numbered from `n` on, and the next number. -/
def toProject (canvas : Canvas) (n : Nat) (doc : Document) : Except DocumentError Project × Nat :=
  match doc.scenes with
  | none => (.error .missingScenes, n)
  | some entries =>
    let (vars, settings) := split doc.vars
    let metadata :=
      { settings with title := doc.title, author := doc.author, description := doc.description }
    let (scenes, next) := SceneEntry.toScenes canvas metadata.fontSizes n entries
    if scenes = [] then (.ok { metadata, vars }, next)
    else
      match SceneTable.ofScenes? scenes with
      | some scenes => (.ok { metadata, vars, scenes }, next)
      | none => (.error (.duplicateScenes (scenes.map (·.name))), next)

end Document

/-- The project of a text, with its elements numbered from `n` on, and the next number. -/
def Project.ofText (canvas : Canvas) (n : Nat) (s : String) : Except DocumentError Project × Nat :=
  match Document.ofText s with
  | .error e => (.error (.json e), n)
  | .ok doc => doc.toProject canvas n

end Storyboard
