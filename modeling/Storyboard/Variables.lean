import Storyboard.Entries

/-!
# Variables

The variables of a document, in the order in which they were created. They belong to the whole
document, not to a scene, and hold text. Documents keep some settings beside the variables, under
names that no variable can take.
-/

namespace Storyboard

/-- The names under which documents keep settings. -/
def reservedNames : List String :=
  ["backgroundImage", "fontSizes", "buttonColor", "labelColor", "fonts"]

/-- Whether a document keeps a setting under the name. -/
def isReserved (name : String) : Bool :=
  reservedNames.contains name

structure VariableStore where
  entries : List (String × String) := []
deriving DecidableEq, Repr, Inhabited

namespace VariableStore

variable (s : VariableStore)

/-- The names in order. -/
def names : List String :=
  Entries.names s.entries

def size : Nat :=
  s.entries.length

def isEmpty : Bool :=
  s.entries.isEmpty

def get? (name : String) : Option String :=
  Entries.get? name s.entries

def contains (name : String) : Bool :=
  s.names.contains name

/-- Whether a variable could be created under the name. -/
def admits (name : String) : Bool :=
  name ≠ "" && !isReserved name && !s.contains name

/-! ### Operations -/

/-- The store with a new variable without a value. -/
def add? (name : String) : Option VariableStore :=
  if s.admits name then some ⟨s.entries ++ [(name, "")]⟩ else none

/-- The store with a value under a name, in its place or at the end. -/
def insert (name value : String) : VariableStore :=
  ⟨Entries.put name value s.entries⟩

/-- The store with another value for a variable that there is. -/
def set? (name value : String) : Option VariableStore :=
  if s.contains name then some (s.insert name value) else none

/-- The store with a variable under a new name. -/
def rename? (old new : String) : Option VariableStore :=
  if s.admits new && s.contains old then some ⟨Entries.rename old new s.entries⟩ else none

/-- The value of a variable and the store without it. -/
def remove? (name : String) : Option (String × VariableStore) :=
  (s.get? name).map fun value => (value, ⟨Entries.erase name s.entries⟩)

/-- The store of some names and values, inserted in order. -/
def ofList (entries : List (String × String)) : VariableStore :=
  entries.foldl (fun s e => s.insert e.1 e.2) {}

end VariableStore

end Storyboard
