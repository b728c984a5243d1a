import Storyboard.Json.Read
import Storyboard.Text.Blank

/-!
# Fonts

Elements name a font category, and the document says how many pixels each category has, so that
one change restyles every element.
-/

namespace Storyboard

open Text Json

inductive FontCategory
  | title
  | big
  | medium
  | small
deriving DecidableEq, Repr, Inhabited

namespace FontCategory

def all : List FontCategory :=
  [.title, .big, .medium, .small]

def name : FontCategory → String
  | .title => "title"
  | .big => "big"
  | .medium => "medium"
  | .small => "small"

def ofName? (s : String) : Option FontCategory :=
  all.find? (·.name = s)

theorem ofName?_name (c : FontCategory) : ofName? c.name = some c := by
  cases c <;> rfl

/-- The category of a text that names none. -/
def fallback : FontCategory := .medium

end FontCategory

/-- The pixel size of each category. -/
structure FontSizes where
  title : Nat := 48
  big : Nat := 36
  medium : Nat := 24
  small : Nat := 18
deriving DecidableEq, Repr, Inhabited

namespace FontSizes

def px (s : FontSizes) : FontCategory → Nat
  | .title => s.title
  | .big => s.big
  | .medium => s.medium
  | .small => s.small

/-- The sizes that a function gives. -/
def ofPx (f : FontCategory → Nat) : FontSizes :=
  ⟨f .title, f .big, f .medium, f .small⟩

/-- Sizes are below this bound. -/
def bound : Nat := 4294967296

def toValue (s : FontSizes) : Value :=
  .object (FontCategory.all.map fun c => (c.name, .int (s.px c)))

/-- The categories as fields of a record. -/
def fields : Fields FontCategory Nat where
  all := FontCategory.all
  name := FontCategory.name
  read _ := .natBelow bound

/-- Sizes in the strict form; a missing one has its usual value. -/
def reader : Reader FontSizes := fun room d => do
  let t ← fields.table room d
  return ofPx fun c => (t.lookup c).getD (({} : FontSizes).px c)

/-! ### The lenient form -/

/-- The whole number that a text holds, with a plus sign or without. -/
def ofText? (s : String) : Option Nat :=
  let digits :=
    match trim s.toList with
    | '+' :: r => r
    | r => r
  if digits ≠ [] ∧ digits.all Char.isDigit then some (ofDigits digits) else none

/-- The size that a value holds as a number or as text, if it can be one. -/
def size? (v : Value) : Option Nat :=
  let n :=
    match v with
    | .number (.int i) => if 0 ≤ i then some i.toNat else none
    | .string s => ofText? s
    | _ => none
  n.filter fun n => 0 < n ∧ n < bound

/-- The sizes that a value holds. What is missing or no size has its usual value. -/
def ofValue (v : Value) : FontSizes :=
  match v with
  | .object members =>
    ofPx fun c => ((Entries.get? c.name members).bind size?).getD (({} : FontSizes).px c)
  | _ => {}

end FontSizes

end Storyboard
