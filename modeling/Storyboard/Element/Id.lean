/-!
# Element names

Elements are addressed by a text made of the tag of their kind and a number that was not used
before. The numbers come from one counter for all tags.
-/

namespace Storyboard

/-- The name of an element. -/
structure ElementId where
  text : String
deriving DecidableEq, Repr

namespace ElementId

/-- The name with a stem and a number. -/
def numbered (stem : String) (n : Nat) : ElementId :=
  ⟨stem ++ "_" ++ toString n⟩

/-- The name as it appears in logs. -/
def label (id : ElementId) : String :=
  "#" ++ id.text

/-- The names that have been given out, and the next number. -/
structure Registry where
  known : List ElementId := []
  next : Nat := 0

namespace Registry

/-- Take in the name of a text. -/
def intern (r : Registry) (text : String) : ElementId × Registry :=
  let id : ElementId := ⟨text⟩
  (id, if id ∈ r.known then r else { r with known := id :: r.known })

/-- The name of a text, if it has been given out. -/
def lookup (r : Registry) (text : String) : Option ElementId :=
  if (⟨text⟩ : ElementId) ∈ r.known then some ⟨text⟩ else none

/-- A name with a stem and the next number. -/
def fresh (r : Registry) (stem : String) : ElementId × Registry :=
  ({ r with next := r.next + 1 } : Registry).intern (numbered stem r.next).text

end Registry

end ElementId

end Storyboard
