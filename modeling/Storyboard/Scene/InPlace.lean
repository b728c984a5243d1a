import Storyboard.Scene

/-!
# Tables in place

The operations on a table once more, as changes of a table that is at hand. Each finds the first
scene of a name and says how it ended, so here it shows what an operation leaves behind that is
refused, and that the place of a removed scene was found before it was removed.
-/

namespace Storyboard.SceneTable

/-- Whether no scene has the name of one before it. -/
def allNew (scenes : List Scene) : Bool :=
  scenes.zipIdx.all fun (s, i) => !(scenes.take i).any (·.name = s.name)

/-- The table of some scenes, if there are any and every name is new where it stands. -/
def accept? (scenes : List Scene) : Option SceneTable :=
  if scenes.isEmpty then none else if allNew scenes then some ⟨scenes⟩ else none

/-- An operation on a table. -/
inductive Operation
  | insert (name : String) (elements : List Element)
  | store (name : String) (elements : List Element)
  | rename (old new : String)
  | remove (name : String)
  | fit (canvas : Canvas) (fonts : FontSizes)
deriving DecidableEq

/-- How an operation ended. A removed scene comes with its former place. -/
inductive Answer
  | refused
  | done
  | removed (i : Nat) (s : Scene)
deriving DecidableEq

/-- What an operation gives as a whole, unless it is refused. -/
def Operation.perform? (t : SceneTable) : Operation → Option (Answer × SceneTable)
  | insert name elements => (t.insert? name elements).map (.done, ·)
  | store name elements => (t.store? name elements).map (.done, ·)
  | rename old new => (t.rename? old new).map (.done, ·)
  | remove name => (t.remove? name).map fun (i, s, u) => (.removed i s, u)
  | fit canvas fonts => some (.done, t.fit canvas fonts)

/-! ### Changes -/

/-- Change the scenes. -/
def alter (f : List Scene → List Scene) : StateM SceneTable Unit :=
  modifyGet fun t => ((), ⟨f t.scenes⟩)

/-- The place of the first scene of a name. -/
def find (name : String) : StateM SceneTable (Option Nat) :=
  return (← get).scenes.findIdx? (·.name = name)

/-- Change the first scene of a name. -/
def change (name : String) (f : Scene → Scene) : StateM SceneTable Answer := do
  match ← find name with
  | none => return .refused
  | some i =>
    alter (·.modify i f)
    return .done

/-- Take out the scene at a place. -/
def takeOut (i : Nat) : StateM SceneTable Answer := do
  match (← get).scenes[i]? with
  | none => return .refused
  | some s =>
    alter (·.eraseIdx i)
    return .removed i s

/-- An operation, change by change. -/
def Operation.carryOut : Operation → StateM SceneTable Answer
  | insert name elements => do
    if name = "" ∨ (← find name).isSome then
      return .refused
    else
      alter (· ++ [⟨name, elements⟩])
      return .done
  | store name elements => change name ({ · with elements := elements })
  | rename old new => do
    if new = "" ∨ (← find new).isSome then return .refused else change old ({ · with name := new })
  | remove name => do
    if (← get).size ≤ 1 then
      return .refused
    else
      match ← find name with
      | none => return .refused
      | some i => takeOut i
  | fit canvas fonts => do
    alter (·.map fun s => { s with elements := s.elements.map (·.fit canvas fonts) })
    return .done

/-- The table after some operations, whether they were carried out or refused. -/
def after (t : SceneTable) (ops : List Operation) : SceneTable :=
  ops.foldl (fun t op => (op.carryOut.run t).2) t

end Storyboard.SceneTable
