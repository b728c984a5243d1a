import Storyboard.Document.Lenient

/-!
# Element entries

How a document describes an element: a record of fields, most of which may be missing. An entry
is written as the list of the fields that it has, in the order of `ElementField.all`, and read
from a table of fields, so that reading and writing meet field by field.
-/

namespace Storyboard

open Json Document

/-- The fields of an element. -/
inductive ElementField
  | kind
  | x
  | y
  | width
  | height
  | color
  | background
  | font
  | opacity
  | trigger
  | sceneChange
  | externalAppPath
  | externalAppReturn
  | variableChange
  | variableChangeValue
  | videoPath
  | imagePath
  /-- The target of a trigger of any kind, which only old documents have. -/
  | triggerTarget
  /-- The value of a trigger of any kind, which only old documents have. -/
  | triggerValue
  | text
  | command
  | listVariable
  | image
  | videoVariable
deriving DecidableEq, Repr

namespace ElementField

/-- The fields in their order. -/
def all : List ElementField :=
  [.kind, .x, .y, .width, .height, .color, .background, .font, .opacity, .trigger, .sceneChange,
    .externalAppPath, .externalAppReturn, .variableChange, .variableChangeValue, .videoPath,
    .imagePath, .triggerTarget, .triggerValue, .text, .command, .listVariable, .image,
    .videoVariable]

/-- The key of a field. -/
def name : ElementField → String
  | .kind => "type"
  | .x => "x"
  | .y => "y"
  | .width => "width"
  | .height => "height"
  | .color => "color"
  | .background => "bgColor"
  | .font => "font"
  | .opacity => "opacity"
  | .trigger => "trigger"
  | .sceneChange => "sceneChange"
  | .externalAppPath => "externalAppPath"
  | .externalAppReturn => "externalAppReturn"
  | .variableChange => "variableChange"
  | .variableChangeValue => "variableChangeValue"
  | .videoPath => "videoPath"
  | .imagePath => "imagePath"
  | .triggerTarget => "triggerTarget"
  | .triggerValue => "triggerValue"
  | .text => "text"
  | .command => "command"
  | .listVariable => "listVariable"
  | .image => "image"
  | .videoVariable => "videoVariable"

/-- Whether the field holds a dimension. -/
def isDimension : ElementField → Bool
  | .width | .height => true
  | _ => false

/-- The value of a field. Every field takes any value, except a dimension. -/
def read (f : ElementField) : Reader Value := fun room d => do
  let v ← Reader.value room d
  if f.isDimension && (dimension? v).isNone then throw (dimensionRefusal v)
  return v

end ElementField

structure ElementEntry where
  kind : String := ""
  x : Int := 0
  y : Int := 0
  width : Option Dimension := none
  height : Option Dimension := none
  color : Option String := none
  background : Option String := none
  font : Option String := none
  /-- A fraction between zero and one. -/
  opacity : Option Double := none
  trigger : Option String := none
  sceneChange : Option String := none
  externalAppPath : Option String := none
  externalAppReturn : Option String := none
  variableChange : Option String := none
  variableChangeValue : Option String := none
  videoPath : Option String := none
  imagePath : Option String := none
  triggerTarget : Option String := none
  triggerValue : Option String := none
  text : Option String := none
  command : Option String := none
  listVariable : Option String := none
  image : Option String := none
  videoVariable : Option String := none
deriving DecidableEq

namespace ElementEntry

/-! ### Reading -/

/-- The fields of an element as fields of a record. -/
def fields : Fields ElementField Value where
  all := ElementField.all
  name := ElementField.name
  read := ElementField.read

/-- The entry of a table of fields. -/
def ofTable (t : List (ElementField × Value)) : ElementEntry :=
  let text (f : ElementField) : Option String := (t.lookup f).bind Value.scalarText?
  { kind := ((t.lookup .kind).map Document.text).getD ""
    x := ((t.lookup .x).map Document.int).getD 0
    y := ((t.lookup .y).map Document.int).getD 0
    width := (t.lookup .width).bind dimension?
    height := (t.lookup .height).bind dimension?
    color := text .color
    background := text .background
    font := text .font
    opacity := (t.lookup .opacity).bind float?
    trigger := text .trigger
    sceneChange := text .sceneChange
    externalAppPath := text .externalAppPath
    externalAppReturn := text .externalAppReturn
    variableChange := text .variableChange
    variableChangeValue := text .variableChangeValue
    videoPath := text .videoPath
    imagePath := text .imagePath
    triggerTarget := text .triggerTarget
    triggerValue := text .triggerValue
    text := text .text
    command := text .command
    listVariable := text .listVariable
    image := text .image
    videoVariable := text .videoVariable }

def reader : Reader ElementEntry := fun room d =>
  (fields.table room d).map ofTable

/-! ### Writing -/

/-- What the entry writes for a field. The fields of old documents are not written. -/
def written (e : ElementEntry) : ElementField → Option Value
  | .kind => some (.string e.kind)
  | .x => some (.int e.x)
  | .y => some (.int e.y)
  | .width => e.width.map dimensionValue
  | .height => e.height.map dimensionValue
  | .color => e.color.map .string
  | .background => e.background.map .string
  | .font => e.font.map .string
  | .opacity => e.opacity.map fun x => if x.isFinite then .number (.float x) else .null
  | .trigger => e.trigger.map .string
  | .sceneChange => e.sceneChange.map .string
  | .externalAppPath => e.externalAppPath.map .string
  | .externalAppReturn => e.externalAppReturn.map .string
  | .variableChange => e.variableChange.map .string
  | .variableChangeValue => e.variableChangeValue.map .string
  | .videoPath => e.videoPath.map .string
  | .imagePath => e.imagePath.map .string
  | .triggerTarget => none
  | .triggerValue => none
  | .text => e.text.map .string
  | .command => e.command.map .string
  | .listVariable => e.listVariable.map .string
  | .image => e.image.map .string
  | .videoVariable => e.videoVariable.map .string

/-- The fields that the entry has. -/
def table (e : ElementEntry) : List (ElementField × Value) :=
  ElementField.all.filterMap fun f => (e.written f).map fun v => (f, v)

/-- The fields that the entry has, under their keys. -/
def members (e : ElementEntry) : List (String × Value) :=
  e.table.map fun m => (m.1.name, m.2)

def toValue (e : ElementEntry) : Value :=
  .object e.members

end ElementEntry

end Storyboard
