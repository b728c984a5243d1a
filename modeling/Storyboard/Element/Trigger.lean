/-!
# Triggers

What the player does when an element is activated. A trigger holds the data of its own kind and
nothing else, so changing the kind drops what was set for another one.
-/

namespace Storyboard

inductive TriggerKind
  | changeScene
  | setVariable
  | externalApp
  | playVideo
  | playImage
deriving DecidableEq, Repr

namespace TriggerKind

def all : List TriggerKind :=
  [.changeScene, .setVariable, .externalApp, .playVideo, .playImage]

def name : TriggerKind → String
  | .changeScene => "change_scene"
  | .setVariable => "set_variable"
  | .externalApp => "external_app"
  | .playVideo => "play_video"
  | .playImage => "play_image"

def ofName? (s : String) : Option TriggerKind :=
  all.find? (·.name = s)

theorem ofName?_name (k : TriggerKind) : ofName? k.name = some k := by
  cases k <;> rfl

end TriggerKind

inductive Trigger
  | changeScene (scene : String)
  | setVariable (name value : String)
  | externalApp (path returnVariable : String)
  | playVideo (path : String)
  | playImage (path : String)
deriving DecidableEq, Repr

namespace Trigger

def kind : Trigger → TriggerKind
  | .changeScene _ => .changeScene
  | .setVariable _ _ => .setVariable
  | .externalApp _ _ => .externalApp
  | .playVideo _ => .playVideo
  | .playImage _ => .playImage

/-- The trigger of a kind with a target, which is a scene, a variable or a path, and a value,
which counts for the kinds that have one. -/
def ofParts (target value : String) : TriggerKind → Trigger
  | .changeScene => .changeScene target
  | .setVariable => .setVariable target value
  | .externalApp => .externalApp target value
  | .playVideo => .playVideo target
  | .playImage => .playImage target

/-- The trigger of a kind with nothing filled in. -/
def blank (k : TriggerKind) : Trigger :=
  ofParts "" "" k

@[simp] theorem kind_ofParts (target value : String) (k : TriggerKind) :
    (ofParts target value k).kind = k := by
  cases k <;> rfl

/-- The scene, variable or path. -/
def target : Trigger → String
  | .changeScene s => s
  | .setVariable v _ => v
  | .externalApp p _ => p
  | .playVideo p => p
  | .playImage p => p

/-- The new value of a variable, or the variable for a result. -/
def value : Trigger → String
  | .setVariable _ v => v
  | .externalApp _ r => r
  | _ => ""

theorem ofParts_kind (t : Trigger) : ofParts t.target t.value t.kind = t := by
  cases t <;> rfl

end Trigger

end Storyboard
