import Storyboard.Entries
import Storyboard.Json.Draft

/-!
# Reading drafts

Readers walk through a draft in the order of its text and stop at the first problem. A problem is
a break in the text or a value that does not suit its place. Containers may be nested up to a
limit, which a reader is given as the room that is left; what is passed over has no limit.

A record, such as an element of a document, is an object with known fields, or an array with the
fields in their order. Fields may be missing, and an object may have unknown fields, but a known
field must not occur twice.
-/

namespace Storyboard.Json

/-- Why a text is not read. -/
inductive Error
  /-- The text ends too early. -/
  | truncated
  /-- The text is no JSON text. -/
  | malformed
  /-- A value does not suit its place. -/
  | unsuitable (detail : Option String)
deriving DecidableEq, Repr

def Fault.error : Fault → Error
  | .truncated => .truncated
  | .malformed => .malformed

/-- How deep containers may be nested. -/
def nesting : Nat := 127

/-! ### Values -/

/-- The value of a scalar. -/
def Scalar.value : Scalar → Except Error Value
  | .null => .ok .null
  | .bool b => .ok (.bool b)
  | .number (some n) => .ok (.number n)
  | .string (some s) => .ok (.string s)
  | .number none | .string none => .error .malformed

/-- Stop at a break, as a reader. -/
def endOf : Option Break → Except Error Unit
  | none => .ok ()
  | some b => .error b.read.error

/-- Members of an object; a repeated key keeps its first place and its last value. -/
def collapse (members : List (String × Value)) : List (String × Value) :=
  members.foldl (fun ms m => Entries.put m.1 m.2 ms) []

namespace Draft

mutual

/-- The value of a draft. -/
def value (room : Nat) : Draft → Except Error Value
  | .scalar s => s.value
  | .broken b => .error b.read.error
  | .array items ending =>
    match room with
    | 0 => .error .malformed
    | room + 1 => do
      let vs ← values room items
      endOf ending
      return .array vs
  | .object members ending =>
    match room with
    | 0 => .error .malformed
    | room + 1 => do
      let ms ← memberValues room members
      endOf ending
      return .object (collapse ms)

/-- The values of some items. -/
def values (room : Nat) : List Draft → Except Error (List Value)
  | [] => .ok []
  | d :: ds => do
    let v ← value room d
    let vs ← values room ds
    return v :: vs

/-- The keys and values of some members. -/
def memberValues (room : Nat) : List (Option String × Draft) → Except Error (List (String × Value))
  | [] => .ok []
  | (none, _) :: _ => .error .malformed
  | (some k, d) :: ms => do
    let v ← value room d
    let vs ← memberValues room ms
    return (k, v) :: vs

end

mutual

/-- Pass over a draft. -/
def skip : Draft → Except Error Unit
  | .scalar _ => .ok ()
  | .broken b => .error b.skip.error
  | .array items ending => do
    skipItems items
    skipEnd ending
  | .object members ending => do
    skipMembers members
    skipEnd ending

/-- Pass over some items. -/
def skipItems : List Draft → Except Error Unit
  | [] => .ok ()
  | d :: ds => do
    skip d
    skipItems ds

/-- Pass over some members. -/
def skipMembers : List (Option String × Draft) → Except Error Unit
  | [] => .ok ()
  | (_, d) :: ms => do
    skip d
    skipMembers ms

/-- Stop at a break, passing over. -/
def skipEnd : Option Break → Except Error Unit
  | none => .ok ()
  | some b => .error b.skip.error

end

mutual

/-- A value as the draft of its text. -/
def ofValue : Value → Draft
  | .null => .scalar .null
  | .bool b => .scalar (.bool b)
  | .number n => .scalar (.number (some n))
  | .string s => .scalar (.string (some s))
  | .array vs => .array (ofValues vs) none
  | .object ms => .object (ofMembers ms) none

/-- Values as items. -/
def ofValues : List Value → List Draft
  | [] => []
  | v :: vs => ofValue v :: ofValues vs

/-- Keys with values as members. -/
def ofMembers : List (String × Value) → List (Option String × Draft)
  | [] => []
  | (k, v) :: ms => (some k, ofValue v) :: ofMembers ms

end

/-- Refuse a draft where something else is wanted. A scalar is read first. -/
def refuse {α : Type} : Draft → Except Error α
  | .scalar s => do
    let _ ← s.value
    throw (.unsuitable none)
  | .broken b => .error b.read.error
  | .array .. | .object .. => .error (.unsuitable none)

end Draft

/-- Something that reads a draft, with the room that is left for containers. -/
abbrev Reader (α : Type) := Nat → Draft → Except Error α

/-- Read a text from one end to the other. -/
def Reader.read {α : Type} (r : Reader α) (text : String) : Except Error α := do
  let (d, surplus) := Draft.ofText text
  let a ← r nesting d
  if surplus then throw .malformed
  return a

namespace Reader

variable {α : Type}

/-- Any value. -/
def value : Reader Value :=
  Draft.value

/-- A whole number below a bound. -/
def natBelow (bound : Nat) : Reader Nat := fun _ d =>
  match d with
  | .scalar (.number (some (.int i))) =>
    if 0 ≤ i ∧ i < bound then .ok i.toNat else .error (.unsuitable none)
  | d => d.refuse

/-- Null for nothing, or something. -/
def option (r : Reader α) : Reader (Option α) := fun room d =>
  match d with
  | .scalar .null => .ok none
  | d => (r room d).map some

/-- An array of things. -/
def list (r : Reader α) : Reader (List α) := fun room d =>
  match d, room with
  | .array _ _, 0 => .error .malformed
  | .array items ending, room + 1 => do
    let as ← items.mapM (r room)
    endOf ending
    return as
  | d, _ => d.refuse

end Reader

/-! ### Records -/

/-- The fields of a record in their order, with their names and readers. -/
structure Fields (κ α : Type) where
  all : List κ
  name : κ → String
  read : κ → Reader α

namespace Fields

variable {κ α : Type} [DecidableEq κ] (F : Fields κ α)

/-- The field of a name. -/
def find? (name : String) : Option κ :=
  F.all.find? fun k => F.name k = name

/-- The fields of a record that is written as an object. -/
def ofMembers (room : Nat) (seen : List κ) :
    List (Option String × Draft) → Except Error (List (κ × α))
  | [] => .ok []
  | (none, _) :: _ => .error .malformed
  | (some key, d) :: ms =>
    match F.find? key with
    | none => do
      d.skip
      ofMembers room seen ms
    | some k =>
      if k ∈ seen then .error (.unsuitable none)
      else do
        let a ← F.read k room d
        let rest ← ofMembers room (k :: seen) ms
        return (k, a) :: rest

/-- The fields of a record that is written as an array. -/
def ofItems (room : Nat) : List κ → List Draft → Except Error (List (κ × α))
  | _, [] => .ok []
  | [], _ :: _ => .error .malformed
  | k :: ks, d :: ds => do
    let a ← F.read k room d
    let rest ← ofItems room ks ds
    return (k, a) :: rest

/-- The fields of a record that are there. -/
def table : Reader (List (κ × α)) := fun room d =>
  match d, room with
  | .array _ _, 0 | .object _ _, 0 => .error .malformed
  | .array items ending, room + 1 => do
    let t ← F.ofItems room F.all items
    endOf ending
    return t
  | .object members ending, room + 1 => do
    let t ← F.ofMembers room [] members
    endOf ending
    return t
  | d, _ => d.refuse

end Fields

end Storyboard.Json
