import Storyboard.Editor
import Storyboard.Proofs.Session.Reachable

/-!
# Calls of a page

Everything that a page can ask of its editor, with what it gets for an answer. Each call looks at
the editor, or has the session perform an action, or begins or gives up a gesture; which of these
it does is said here once for all calls.
-/

namespace Storyboard

open Json

namespace Editor

/-! ### Calls and answers -/

/-- A call of one of the methods of an editor. Elements are given by their names. -/
inductive Call
  | currentScene
  | sceneNames
  | switchScene (name : String)
  | addScene
  | renameScene (name : String)
  | duplicateScene (name : String)
  | deleteScene
  | menu (hours minutes : Nat)
  | createElement (tag : String) (p : Position)
  | removeElement (id : ElementId)
  | elements
  | setProperty (id : ElementId) (key value : String)
  | setCollapsedList (id : ElementId) (command listVariable : String)
  | setTrigger (id : ElementId) (kind target value : String)
  | pointerDown (id : ElementId) (p : Position) (resize : Bool)
  | pointerMove (p : Position)
  | pointerUp
  | variables
  | addVariable (name : String)
  | editVariable (name value : String)
  | renameVariable (old new : String)
  | deleteVariable (name : String)
  | tooltip (id : ElementId)
  | tooltips
  | setCanvas (preset width height : String)
  | canvas
  | setBackground (value : String)
  | setMetadata (title author description : String)
  | reset
  | exportFileName
  | exportText
  | importText (text : String)
  | lint
deriving DecidableEq, Repr

/-- What a call gives. Answers that speak of elements are kept apart from their texts, so that the
names in them can be told from the rest. -/
inductive Answer
  | nothing
  | flag (b : Bool)
  | text (s : String)
  | id (id : ElementId)
  | elements (es : List Element)
  | tooltips (ts : List (ElementId × String))
  | findings (ds : List Diagnostic)
deriving DecidableEq, Repr

/-- The answer as the page gets it. -/
def Answer.shown : Answer → Value
  | .nothing => .null
  | .flag b => .bool b
  | .text s => .string s
  | .id i => .string i.text
  | .elements es => .string (Value.array (es.map elementValue)).compact
  | .tooltips ts =>
    .string (Value.object (collapse (ts.map fun t => (t.1.text, .string t.2)))).compact
  | .findings ds => .string (Value.array (ds.map diagnosticValue)).compact

variable (ed : Editor)

/-- The texts for hovering over the elements that refer to variables, by the elements. -/
def hovers : List (ElementId × String) :=
  ed.session.previews.filterMap fun p => p.2.tooltip.map (p.1, ·)

/-- Answer a call. -/
def call : Call → Answer × Editor
  | .currentScene => (.text ed.currentScene, ed)
  | .sceneNames => (.text ed.sceneNamesText, ed)
  | .switchScene name => (ed.switchScene name).map .flag id
  | .addScene => ed.addScene.map .text id
  | .renameScene name => (ed.renameScene name).map .flag id
  | .duplicateScene name => (ed.duplicateScene name).map .flag id
  | .deleteScene => ed.deleteScene.map .flag id
  | .menu hours minutes => (.text (ed.menuText hours minutes), ed)
  | .createElement tag p => (ed.createElement tag p).map (fun s => .id ⟨s⟩) id
  | .removeElement i => (ed.removeElement i.text).map .flag id
  | .elements => (.elements ed.session.live, ed)
  | .setProperty i key value => (ed.setProperty i.text key value).map .flag id
  | .setCollapsedList i command listVariable =>
    (ed.setCollapsedList i.text command listVariable).map .flag id
  | .setTrigger i kind target value => (ed.setTrigger i.text kind target value).map .flag id
  | .pointerDown i p resize => (ed.pointerDown i.text p resize).map .flag id
  | .pointerMove p => (ed.pointerMove p).map .flag id
  | .pointerUp => (.nothing, ed.pointerUp)
  | .variables => (.text ed.variablesText, ed)
  | .addVariable name => (ed.addVariable name).map .flag id
  | .editVariable name value => (ed.editVariable name value).map .flag id
  | .renameVariable old new => (ed.renameVariable old new).map .flag id
  | .deleteVariable name => (ed.deleteVariable name).map .flag id
  | .tooltip i => (.text (ed.tooltip i.text), ed)
  | .tooltips => (.tooltips ed.hovers, ed)
  | .setCanvas preset width height => (.nothing, ed.setCanvas preset width height)
  | .canvas => (.text ed.canvasText, ed)
  | .setBackground value => (.nothing, ed.setBackground value)
  | .setMetadata title author description => (.nothing, ed.setMetadata title author description)
  | .reset => (.nothing, ed.reset)
  | .exportFileName => (.text ed.exportFileName, ed)
  | .exportText => ed.exportText.map .text id
  | .importText text => (ed.importText text).map .flag id
  | .lint => (.findings (ed.always .snapshot).session.project.lint, ed.lintText.2)

/-- The answers that are kept apart are shown as the texts of their methods. -/
theorem shown_call :
    (∀ tag p, (ed.call (.createElement tag p)).1.shown = .string (ed.createElement tag p).1) ∧
      (ed.call .elements).1.shown = .string ed.elementsText ∧
      (ed.call .tooltips).1.shown = .string ed.tooltipsText ∧
      (ed.call .lint).1.shown = .string ed.lintText.1 := by
  refine ⟨fun tag p => rfl, rfl, ?_, rfl⟩
  simp [call, Answer.shown, hovers, tooltipsText, List.map_filterMap, Option.map_map,
    Function.comp_def]

/-- Answer some calls, one after the other. -/
def run : Editor → List Call → List Answer × Editor
  | ed, [] => ([], ed)
  | ed, c :: cs =>
    let first := ed.call c
    let others := run first.2 cs
    (first.1 :: others.1, others.2)

/-! ### What a call does -/

/-- The action that a call has the session perform, if there is one. -/
def Call.action? : Call → Option Action
  | .switchScene name => some (.switchTo name)
  | .addScene => some .addScene
  | .renameScene name => some (.renameScene name)
  | .duplicateScene name => some (.duplicateScene name)
  | .deleteScene => some .deleteScene
  | .createElement tag p => some (.addElement (.ofTag tag) p)
  | .removeElement id => some (.removeElement id)
  | .setProperty id key value => (propertyEdit key value).map (.edit id)
  | .setCollapsedList id command listVariable =>
    some (.edit id (.collapsedList command listVariable))
  | .setTrigger id kind target value => (triggerEdit kind target value).map (.edit id)
  | .pointerMove p => ed.gesture.map (.updateGesture · p)
  | .addVariable name => some (.addVariable name)
  | .editVariable name value => some (.editVariable name value)
  | .renameVariable old new => some (.renameVariable old new)
  | .deleteVariable name => some (.deleteVariable name)
  | .setCanvas preset width height => some (.setCanvas (.ofSelector preset width height))
  | .setBackground value => some (.setBackground (nonEmpty value))
  | .setMetadata title author description => some (.setMetadata title author description)
  | .reset => some .reset
  | .exportText => some .exportText
  | .importText text => some (.importText text)
  | .lint => some .snapshot
  | _ => none

/-- Whether a call gives up the gesture in progress. -/
def Call.releases : Call → Bool
  | .switchScene _ | .addScene | .duplicateScene _ | .deleteScene | .setCanvas .. | .reset
  | .importText _ | .pointerUp => true
  | .removeElement id => ed.gesture.any (·.element = id)
  | _ => false

/-- The gesture in progress after a call. -/
def Call.gesture? : Call → Option Gesture
  | .pointerDown id p resize =>
    match ed.session.beginGesture id (if resize then .resize else .drag) p with
    | .ok g => some g
    | .error _ => ed.gesture
  | c => if c.releases ed then none else ed.gesture

/-- The editor after its session was asked to perform an action, if there is one. -/
def proceed : Option Action → Editor
  | some a =>
    { ed with session := (ed.session.after ed.next a).1, next := (ed.session.after ed.next a).2 }
  | none => ed

variable {ed : Editor} {a : Action}

lemma act_snd (ed : Editor) (a : Action) : (ed.act a).2 = ed.proceed (some a) := by
  rcases h : ed.session.perform ed.next a with ⟨_ | ⟨o, s⟩, m⟩ <;>
    simp [act, proceed, Session.after, h]

lemma ask_snd (ed : Editor) (a : Action) : (ed.ask a).2 = ed.proceed (some a) := by
  rcases h : ed.session.perform ed.next a with ⟨_ | ⟨_ | _ | _ | _, s⟩, m⟩ <;>
    simp [ask, proceed, Session.after, h]

lemma tryEdit_snd (ed : Editor) (id : String) (edit : Option Edit) :
    (ed.tryEdit id edit).2 = ed.proceed (edit.map (.edit ⟨id⟩)) := by
  cases edit with
  | none => rfl
  | some edit => exact act_snd ed _

lemma act_release_fst (ed : Editor) (a : Action) : (ed.release.act a).1 = (ed.act a).1 := by
  simp only [act, release]
  rcases ed.session.perform ed.next a with ⟨_ | ⟨o, s⟩, m⟩ <;> rfl

lemma removeElement_fst (ed : Editor) (id : ElementId) :
    (ed.removeElement id.text).1 = (ed.act (.removeElement id)).1 := by
  by_cases h : ed.gesture.any (·.element = id) = true
  · simp only [removeElement, h, if_true]
    exact act_release_fst ed (.removeElement id)
  · simp only [removeElement, h]
    rfl

/-- Lint looks at the project as it stands. -/
lemma lint_fst (hs : ed.session.Consistent) :
    (ed.call .lint).1 = .findings ed.session.whole.lint := by
  change Answer.findings ed.session.snapshot.project.lint = _
  rw [Session.snapshot_eq hs]

/-- A call leaves behind its gesture and has the session perform its action. -/
theorem call_snd (ed : Editor) (c : Call) :
    (ed.call c).2 = ({ ed with gesture := c.gesture? ed } : Editor).proceed (c.action? ed) := by
  cases c with
  | pointerDown id p resize =>
    cases h : ed.session.beginGesture id (if resize then .resize else .drag) p with
    | ok g => simp [call, pointerDown, Call.gesture?, Call.action?, proceed, h]
    | error e => simp [call, pointerDown, Call.gesture?, Call.action?, proceed, h]
  | pointerMove p =>
    change (ed.pointerMove p).2 = ed.proceed (ed.gesture.map (.updateGesture · p))
    cases h : ed.gesture with
    | none => simp [pointerMove, h, proceed]
    | some g => simp [pointerMove, h, act_snd]
  | removeElement id =>
    have hact := act_snd (if ed.gesture.any (·.element = id) then ed.release else ed)
      (.removeElement id)
    refine hact.trans ?_
    simp only [Call.gesture?, Call.releases, Call.action?]
    by_cases h : ed.gesture.any (·.element = id) = true
    · simp only [h, if_true]
      rfl
    · simp only [h]
      rfl
  | setProperty id key value => exact tryEdit_snd ed id.text _
  | setCollapsedList id command listVariable =>
    exact tryEdit_snd ed id.text (some (.collapsedList command listVariable))
  | setTrigger id kind target value => exact tryEdit_snd ed id.text _
  | addScene => exact ask_snd ed.release .addScene
  | exportText => exact ask_snd ed .exportText
  | lint => exact act_snd ed .snapshot
  | _ =>
    first
    | rfl
    | exact act_snd _ _

/-! ### Reachable editors -/

/-- The editor with which a page starts when `n` is the next unused number. -/
def start (n : Nat) : Editor :=
  let begun := Session.new { startupMenu := true } n
  { session := begun.1, next := begun.2 }

/-- A page starts with the editor with nothing in it. -/
lemma new_eq_start : new = start 0 := rfl

/-- The editors to which calls lead. Numbers may be used up elsewhere in between. -/
inductive Reachable : Editor → Prop
  | start (n : Nat) : Reachable (start n)
  | call {ed : Editor} (h : Reachable ed) (c : Call) : Reachable (ed.call c).2
  | later {ed : Editor} {m : Nat} (h : Reachable ed) (hm : ed.next ≤ m) :
      Reachable { ed with next := m }

lemma Reachable.run (h : Reachable ed) (cs : List Call) : Reachable (ed.run cs).2 := by
  induction cs generalizing ed with
  | nil => exact h
  | cons c cs ih => exact ih (h.call c)

/-- What calls have a session perform: new elements have the kinds of tags, and no call sets font
sizes. -/
def Admits : Action → Prop
  | .addElement kind _ => ∃ tag, kind = .ofTag tag
  | .setFontSizes _ => False
  | _ => True

lemma admits_action? {c : Call} (h : c.action? ed = some a) : Admits a := by
  cases c with
  | setProperty id key value =>
    obtain ⟨edit, -, rfl⟩ := Option.map_eq_some_iff.mp h
    trivial
  | setTrigger id kind target value =>
    obtain ⟨edit, -, rfl⟩ := Option.map_eq_some_iff.mp h
    trivial
  | pointerMove p =>
    obtain ⟨g, -, rfl⟩ := Option.map_eq_some_iff.mp h
    trivial
  | createElement tag p =>
    obtain rfl := Option.some.inj h
    exact ⟨tag, rfl⟩
  | _ => cases h <;> trivial

/-- The session of an editor has a history of its own. -/
theorem Reachable.session (h : Reachable ed) :
    Session.Reachable Admits ed.session ed.next := by
  induction h with
  | start n => exact .new { startupMenu := true } n
  | @call ed h c ih =>
    rw [call_snd]
    cases ha : c.action? ed with
    | none => exact ih
    | some a => exact ih.after (admits_action? ha)
  | later h hm ih => exact ih.later hm

end Editor

end Storyboard
