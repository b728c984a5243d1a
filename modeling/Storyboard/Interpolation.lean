import Storyboard.Variables

/-!
# References to variables

A text refers to a variable by a dollar sign and a name: an ASCII letter or an underscore, then
any letters, digits and underscores. A dollar sign without a name is ordinary text. Substituting
only makes a preview; the text of an element stays as it was typed.
-/

namespace Storyboard

namespace Reference

/-- The characters of a name. -/
def isNameChar (c : Char) : Bool :=
  c.isAlphanum || c == '_'

/-- The name at the start of a text, if one starts there. -/
def nameAt (s : List Char) : Option (List Char) :=
  match s.takeWhile isNameChar with
  | [] => none
  | c :: cs => if c.isDigit then none else some (c :: cs)

/-- The names after the dollar signs of a text, in order. -/
def scan : List Char → List (List Char)
  | [] => []
  | c :: s =>
    if c = '$' then
      match nameAt s with
      | some name => name :: scan s
      | none => scan s
    else scan s

/-- The names to which a text refers, each once, in the order of their first appearance. -/
def names (text : String) : List String :=
  ((scan text.toList).eraseDups).map String.ofList

/-- The text with the first occurrence of a pattern replaced. -/
def replaceFirst (pattern value : List Char) : List Char → List Char
  | [] => if pattern = [] then value else []
  | c :: s =>
    if pattern.isPrefixOf (c :: s) then value ++ (c :: s).drop pattern.length
    else c :: replaceFirst pattern value s

end Reference

/-- A text with its variables filled in. -/
structure Interpolation where
  /-- The names to which the text refers, with what they stand for. -/
  used : List (String × String)
  /-- The text with the first reference to each name replaced. -/
  evaluated : String
deriving DecidableEq, Repr

namespace Interpolation

/-- What stands for a variable that is not there or has no value. -/
def placeholder : String := "\"\""

/-- What a name stands for. -/
def resolve (vars : VariableStore) (name : String) : String :=
  match vars.get? name with
  | some value => if value = "" then placeholder else value
  | none => placeholder

/-- Fill in the variables of a text, one name after the other. -/
def ofText (vars : VariableStore) (text : String) : Interpolation :=
  let used := (Reference.names text).map fun name => (name, resolve vars name)
  let evaluated := used.foldl
    (fun s u => Reference.replaceFirst ('$' :: u.1.toList) u.2.toList s) text.toList
  ⟨used, .ofList evaluated⟩

/-- Whether the text refers to a variable at all. -/
def hasVariables (i : Interpolation) : Bool :=
  !i.used.isEmpty

/-- The text for hovering over an element: the preview, then a line for each variable. -/
def tooltip (i : Interpolation) : Option String :=
  if i.hasVariables then
    let lines := i.used.map fun u => u.1 ++ ": " ++ u.2
    some ("Evaluated: " ++ i.evaluated ++ "\n\nVariables:\n" ++ String.intercalate "\n" lines)
  else none

end Interpolation

end Storyboard
