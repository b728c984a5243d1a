import Storyboard.Variables

/-!
# Stores in place

The operations on a store once more, as changes of a store that is at hand. Each finds the first
entry of a name and says how it ended.
-/

namespace Storyboard.VariableStore

/-- An operation on a store. -/
inductive Operation
  | add (name : String)
  | insert (name value : String)
  | set (name value : String)
  | rename (old new : String)
  | remove (name : String)
  | clear
deriving DecidableEq

/-- How an operation ended. A removed variable comes with its value. -/
inductive Answer
  | refused
  | done
  | removed (value : String)
deriving DecidableEq

/-- What an operation gives as a whole, unless it is refused. -/
def Operation.perform? (s : VariableStore) : Operation → Option (Answer × VariableStore)
  | add name => (s.add? name).map (.done, ·)
  | insert name value => some (.done, s.insert name value)
  | set name value => (s.set? name value).map (.done, ·)
  | rename old new => (s.rename? old new).map (.done, ·)
  | remove name => (s.remove? name).map fun (value, r) => (.removed value, r)
  | clear => some (.done, {})

/-! ### Changes -/

/-- Change the entries. -/
def alter (f : List (String × String) → List (String × String)) : StateM VariableStore Unit :=
  modifyGet fun s => ((), ⟨f s.entries⟩)

/-- The place of the first entry of a name. -/
def find (name : String) : StateM VariableStore (Option Nat) :=
  return (← get).entries.findIdx? (·.1 = name)

/-- Change the first entry of a name, or do something else if there is none. -/
def change (name : String) (f : String × String → String × String)
    (otherwise : StateM VariableStore Answer) : StateM VariableStore Answer := do
  match ← find name with
  | none => otherwise
  | some i =>
    alter (·.modify i f)
    return .done

/-- Put an entry at the end. -/
def append (name value : String) : StateM VariableStore Answer := do
  alter (· ++ [(name, value)])
  return .done

/-- Take out the entry at a place. -/
def takeOut (i : Nat) : StateM VariableStore Answer := do
  match (← get).entries[i]? with
  | none => return .refused
  | some e =>
    alter (·.eraseIdx i)
    return .removed e.2

/-- An operation, change by change. -/
def Operation.carryOut : Operation → StateM VariableStore Answer
  | add name => do
    if name = "" ∨ isReserved name ∨ (← find name).isSome then
      return .refused
    else
      append name ""
  | insert name value => change name (fun e => (e.1, value)) (append name value)
  | set name value => change name (fun e => (e.1, value)) (return .refused)
  | rename old new => do
    if new = "" ∨ isReserved new ∨ (← find new).isSome then
      return .refused
    else
      change old (fun e => (new, e.2)) (return .refused)
  | remove name => do
    match ← find name with
    | none => return .refused
    | some i => takeOut i
  | clear => do
    alter fun _ => []
    return .done

/-- The store after some operations, whether they were carried out or refused. -/
def after (s : VariableStore) (ops : List Operation) : VariableStore :=
  ops.foldl (fun s op => (op.carryOut.run s).2) s

end Storyboard.VariableStore
