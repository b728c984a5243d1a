import Storyboard.Document.ElementEntry

/-!
# Documents

The form in which a project is stored: metadata, the variables together with the settings, and
the scenes with their elements. A document without scenes is told apart from one with an empty
list of them.
-/

namespace Storyboard

open Json

structure SceneEntry where
  name : String := ""
  elements : List ElementEntry := []
deriving DecidableEq

structure Document where
  title : String := ""
  author : String := ""
  description : String := ""
  /-- The variables and, under reserved names, the settings. -/
  vars : List (String × Value) := []
  scenes : Option (List SceneEntry) := none

/-! ### Scenes -/

namespace SceneEntry

inductive Field
  | name
  | elements
deriving DecidableEq

/-- What a field of a scene holds. -/
inductive Part
  | name (s : String)
  | elements (es : List ElementEntry)

def fields : Fields Field Part where
  all := [.name, .elements]
  name
    | .name => "name"
    | .elements => "elements"
  read
    | .name => fun room d => (Reader.value room d).map fun v => .name (Document.text v)
    | .elements => fun room d => (ElementEntry.reader.list room d).map .elements

/-- The scene with a part filled in. -/
def take (s : SceneEntry) : Part → SceneEntry
  | .name n => { s with name := n }
  | .elements es => { s with elements := es }

def reader : Reader SceneEntry := fun room d =>
  (fields.table room d).map fun t => t.foldl (fun s p => s.take p.2) {}

def toValue (s : SceneEntry) : Value :=
  .object [("name", .string s.name), ("elements", .array (s.elements.map (·.toValue)))]

end SceneEntry

/-! ### Documents -/

namespace Document

inductive Field
  | title
  | author
  | description
  | vars
  | scenes
deriving DecidableEq

/-- What a field of a document holds. -/
inductive Part
  | title (s : String)
  | author (s : String)
  | description (s : String)
  | vars (ms : List (String × Value))
  | scenes (ss : Option (List SceneEntry))

/-- The members of an object; none for any other value. -/
def membersOf : Value → List (String × Value)
  | .object ms => ms
  | _ => []

def fields : Fields Field Part where
  all := [.title, .author, .description, .vars, .scenes]
  name
    | .title => "title"
    | .author => "author"
    | .description => "description"
    | .vars => "variables"
    | .scenes => "scenes"
  read
    | .title => fun room d => (Reader.value room d).map fun v => .title (text v)
    | .author => fun room d => (Reader.value room d).map fun v => .author (text v)
    | .description => fun room d => (Reader.value room d).map fun v => .description (text v)
    | .vars => fun room d => (Reader.value room d).map fun v => .vars (membersOf v)
    | .scenes => fun room d => (SceneEntry.reader.list.option room d).map .scenes

/-- The document with a part filled in. -/
def take (doc : Document) : Part → Document
  | .title s => { doc with title := s }
  | .author s => { doc with author := s }
  | .description s => { doc with description := s }
  | .vars ms => { doc with vars := ms }
  | .scenes ss => { doc with scenes := ss }

def reader : Reader Document := fun room d =>
  (fields.table room d).map fun t => t.foldl (fun doc p => doc.take p.2) {}

/-- Read a document from its text. -/
def ofText (s : String) : Except Error Document :=
  reader.read s

def toValue (doc : Document) : Value :=
  .object
    [("title", .string doc.title), ("author", .string doc.author),
      ("description", .string doc.description), ("variables", .object doc.vars),
      ("scenes", match doc.scenes with
        | none => .null
        | some ss => .array (ss.map (·.toValue)))]

/-- The text of a document, over several lines. -/
def toText (doc : Document) : String :=
  doc.toValue.pretty

end Document

end Storyboard
