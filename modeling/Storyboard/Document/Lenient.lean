import Storyboard.Canvas
import Storyboard.Json.Read

/-!
# Lenient values

Documents come from several editors, and some write numbers as text, text as numbers, or null for
what is missing. Most fields take any value and read what they can from it. Only a dimension is
particular: it is null, a number or text.
-/

namespace Storyboard.Document

open Json

/-- The text of a value, empty if it has none. -/
def text (v : Value) : String :=
  v.scalarText?.getD ""

/-- The number that a value holds, as a number or as text. -/
def float? : Value → Option Double
  | .number (.int i) => some (.ofInt .double i)
  | .number (.float x) => some x
  | .string s => Numeral.lenient s.toList
  | _ => none

/-- A binary number as a coordinate: the nearest integer among those that a coordinate can be. -/
def coordinate (x : Double) : Int :=
  x.roundWithin minCoordinate maxCoordinate

/-- The coordinate that a value holds, or zero. -/
def int (v : Value) : Int :=
  ((float? v).map coordinate).getD 0

/-- The dimension that a value holds. Null, and text without a number, leave it to the content. -/
def dimension? : Value → Option Dimension
  | .null => some .auto
  | .string s => some (((Numeral.lenient s.toList).map fun x => .px (coordinate x)).getD .auto)
  | .number n => some (((float? (.number n)).map fun x => .px (coordinate x)).getD .auto)
  | .bool _ | .array _ | .object _ => none

/-- How a dimension is written. -/
def dimensionValue : Dimension → Value
  | .px n => .int n
  | .auto => .null

/-- Why a value is no dimension. -/
def dimensionRefusal (v : Value) : Error :=
  .unsuitable (some ("expected a number or null for a dimension, got " ++ v.compact))

end Storyboard.Document
