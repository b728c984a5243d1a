/-!
# Entries in order

Lists of names with something attached, in which a name is looked up from the front. Setting a
name that is there keeps its place, and a new name goes to the end; so a list without repeated
names stays without them.
-/

namespace Storyboard.Entries

variable {β : Type}

/-- The names in order. -/
def names (es : List (String × β)) : List String :=
  es.map (·.1)

/-- What is attached to the first entry of a name. -/
def get? (name : String) : List (String × β) → Option β
  | [] => none
  | (k, v) :: es => if k = name then some v else get? name es

/-- Attach something else to a name, in its place or at the end. -/
def put (name : String) (value : β) : List (String × β) → List (String × β)
  | [] => [(name, value)]
  | (k, v) :: es => if k = name then (k, value) :: es else (k, v) :: put name value es

/-- Give the first entry of a name another name. -/
def rename (old new : String) : List (String × β) → List (String × β)
  | [] => []
  | (k, v) :: es => if k = old then (new, v) :: es else (k, v) :: rename old new es

/-- The entries without the first one of a name. -/
def erase (name : String) : List (String × β) → List (String × β)
  | [] => []
  | (k, v) :: es => if k = name then es else (k, v) :: erase name es

/-! ### Names after an operation -/

@[simp] theorem names_nil : names ([] : List (String × β)) = [] := rfl

@[simp] theorem names_cons (e : String × β) (es : List (String × β)) :
    names (e :: es) = e.1 :: names es := rfl

theorem get?_eq_none_iff {name : String} {es : List (String × β)} :
    get? name es = none ↔ name ∉ names es := by
  induction es with
  | nil => simp [get?]
  | cons e es ih =>
    by_cases h : e.1 = name
    · simp [get?, h]
    · simp [get?, h, ih, Ne.symm h]

theorem names_put (name : String) (value : β) (es : List (String × β)) :
    names (put name value es) = if name ∈ names es then names es else names es ++ [name] := by
  induction es with
  | nil => simp [put]
  | cons e es ih =>
    by_cases h : e.1 = name
    · simp [put, h]
    · simp only [put, h, if_false, names_cons, ih, List.mem_cons, Ne.symm h, false_or]
      split <;> simp

theorem names_erase (name : String) (es : List (String × β)) :
    names (erase name es) = (names es).erase name := by
  induction es with
  | nil => rfl
  | cons e es ih =>
    by_cases h : e.1 = name
    · simp [erase, h]
    · simp [erase, h, ih]

end Storyboard.Entries
