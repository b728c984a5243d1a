import Storyboard.Element.Layout

/-!
# Scenes

The table of a document's scenes. Their order counts: a document opens on its first scene, and a
deleted scene gives way to the one before it. A table is never empty, and names do not repeat;
`Valid` says so, and every operation keeps it.
-/

namespace Storyboard

/-- One named screen. -/
structure Scene where
  name : String
  elements : List Element := []
deriving DecidableEq, Repr, Inhabited

structure SceneTable where
  scenes : List Scene
deriving DecidableEq, Repr

namespace SceneTable

/-- The name of the scene of a new document. -/
def defaultName : String := "Scene 1"

/-- A table with one empty scene. -/
def initial : SceneTable :=
  ⟨[⟨defaultName, []⟩]⟩

variable (t : SceneTable)

/-- The names in order. -/
def names : List String :=
  t.scenes.map (·.name)

/-- There is a scene, and no name occurs twice. -/
def Valid : Prop :=
  t.scenes ≠ [] ∧ t.names.Nodup

/-- The table of some scenes, if there are any and their names differ. -/
def ofScenes? (scenes : List Scene) : Option SceneTable :=
  if scenes ≠ [] ∧ (scenes.map (·.name)).Nodup then some ⟨scenes⟩ else none

def size : Nat :=
  t.scenes.length

def isEmpty : Bool :=
  t.scenes.isEmpty

/-- The scene on which a document opens. -/
def first : Scene :=
  t.scenes.headD ⟨defaultName, []⟩

/-- The place of a name. -/
def position? (name : String) : Option Nat :=
  t.names.idxOf? name

def contains (name : String) : Bool :=
  t.names.contains name

/-- The scene of a name. -/
def get? (name : String) : Option Scene :=
  t.scenes.find? (·.name = name)

/-- The elements of a scene; none if there is no such scene. -/
def elements (name : String) : List Element :=
  ((t.get? name).map (·.elements)).getD []

/-! ### Operations -/

/-- The table with a new scene at the end, unless the name is empty or taken. -/
def insert? (name : String) (elements : List Element) : Option SceneTable :=
  if name = "" ∨ t.contains name then none else some ⟨t.scenes ++ [⟨name, elements⟩]⟩

/-- Change the elements of a scene. -/
def modify (name : String) (f : List Element → List Element) : SceneTable :=
  ⟨t.scenes.map fun s => if s.name = name then { s with elements := f s.elements } else s⟩

/-- The table with other elements in a scene, if there is such a scene. -/
def store? (name : String) (elements : List Element) : Option SceneTable :=
  if t.contains name then some (t.modify name fun _ => elements) else none

/-- The table with a scene under a new name, unless the new name is empty or taken or there is no
such scene. -/
def rename? (old new : String) : Option SceneTable :=
  if new = "" ∨ t.contains new then none
  else if t.contains old then
    some ⟨t.scenes.map fun s => if s.name = old then { s with name := new } else s⟩
  else none

/-- The place and the scene of a name with the table that is left, unless it is the last one. -/
def remove? (name : String) : Option (Nat × Scene × SceneTable) :=
  if t.size ≤ 1 then none
  else
    match t.position? name, t.get? name with
    | some i, some s => some (i, s, ⟨t.scenes.eraseIdx i⟩)
    | _, _ => none

/-- The scene to show when the one at a place was removed: the one before it, or else the one
that moved into its place. -/
def fallback (i : Nat) : Scene :=
  t.scenes.getD (min (i - 1) (t.size - 1)) t.first

/-- The name for one scene more. It may be taken. -/
def nextName : String :=
  "Scene " ++ toString (t.size + 1)

/-- Change every element. -/
def mapElements (f : Element → Element) : SceneTable :=
  ⟨t.scenes.map fun s => { s with elements := s.elements.map f }⟩

/-- Bring every element back inside the canvas. -/
def fit (canvas : Canvas) (fonts : FontSizes) : SceneTable :=
  t.mapElements (·.fit canvas fonts)

end SceneTable

end Storyboard
