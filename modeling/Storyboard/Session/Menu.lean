import Storyboard.Json.Value

/-!
# The menu bar

A menu shows one button for each scene, and the time.
-/

namespace Storyboard

open Json Text

structure MenuButton where
  scene : String
  active : Bool
deriving DecidableEq, Repr

namespace MenuButton

/-- The buttons for some scenes of which one is active. -/
def row (scenes : List String) (active : String) : List MenuButton :=
  scenes.map fun s => ⟨s, s = active⟩

def toValue (b : MenuButton) : Value :=
  .object [("scene", .string b.scene), ("active", .bool b.active)]

/-- A row of buttons as text. -/
def rowText (bs : List MenuButton) : String :=
  (Value.array (bs.map toValue)).compact

end MenuButton

/-- The time on a clock with 24 hours. -/
def clockText (hours minutes : Nat) : String :=
  .ofList <| padDigits 2 (digitsOf (hours % 24)) ++ ':' :: padDigits 2 (digitsOf (minutes % 60))

end Storyboard
