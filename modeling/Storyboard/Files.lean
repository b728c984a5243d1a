import Storyboard.Text.Utf8

/-!
# Files

What the library asks of a place where files are kept, and such a place in memory. Paths are
relative, with slashes between their parts. An empty part and the part `.` stay where they are,
and `..` goes back to the directory around.
-/

namespace Storyboard

open Text

/-- Access to files. -/
structure FileAccess (m : Type → Type) where
  /-- The text of a file, if there is such a file and it holds text. -/
  read : String → m (Option String)
  /-- Write a text into a file. Tells whether that was possible. -/
  write : String → String → m Bool
  /-- Make one directory in a directory. Tells whether it is there afterwards. -/
  makeDirectory : String → m Bool

/-- The path of a file in a directory. -/
def joinPath (dir file : String) : String :=
  if file.startsWith "/" ∨ dir = "" then file
  else if dir.endsWith "/" then dir ++ file
  else dir ++ "/" ++ file

/-- Whether a part of a path stays where it is. -/
def staysPut (part : String) : Bool :=
  part = "" || part = "."

/-- The ways to the directories that some parts lead through, each from the start, when the parts
before them are known. The last way takes all the parts: those at the end that stay where they are
go with it, so they ask for a directory that is already there. -/
def directoriesAlong (before : List String) : List String → List (List String)
  | [] => []
  | part :: parts =>
    let here := before ++ [part]
    if parts.all staysPut then [here ++ parts]
    else if staysPut part then directoriesAlong here parts
    else here :: directoriesAlong here parts

/-- The directories that a path leads through, in order. -/
def directoriesOf (path : String) : List String :=
  let parts := ((path.splitOn "/").reverse.dropWhile (· = "")).reverse
  (directoriesAlong [] parts).map (String.intercalate "/")

/-- Make a directory and those on the way to it. Tells whether it is there afterwards. -/
def FileAccess.makeDirectories {m : Type → Type} [Monad m] (fs : FileAccess m) (path : String) :
    m Bool :=
  (directoriesOf path).allM fs.makeDirectory

/-- Whether a path can lead somewhere: a whole path has fewer than 4096 bytes, a part has at most
255, and none of them is NUL. -/
def isPath (path : String) : Bool :=
  path ≠ "" && path.utf8ByteSize < 4096 && path.toList.all (· ≠ '\x00') &&
    (path.splitOn "/").all (·.utf8ByteSize ≤ 255)

/-- Files in memory, under the parts of their paths. The tree lies in directories of which it is
only known that they are there: the place above it is `..`, the one above that `../..`. -/
structure FileTree where
  files : List (List String × List UInt8) := []
  /-- Directories without files in them. -/
  directories : List (List String) := []
deriving DecidableEq, Repr

namespace FileTree

variable (t : FileTree)

/-- Whether there is a directory at a place. -/
def isDirectory (place : List String) : Bool :=
  place.all (· = "..") || t.directories.contains place ||
    t.files.any fun f => place.isPrefixOf f.1 && place.length < f.1.length

/-- The place to which the parts of a path lead. Every part but the last leads to a directory. -/
def walk (here : List String) : List String → Option (List String)
  | [] => some here
  | part :: parts =>
    if !t.isDirectory here then none
    else if staysPut part then walk here parts
    else if part = ".." then
      walk (if here.all (· = "..") then here ++ [".."] else here.dropLast) parts
    else walk (here ++ [part]) parts

/-- The place of a path. -/
def locate (path : String) : Option (List String) :=
  if isPath path && !path.startsWith "/" then t.walk [] (path.splitOn "/") else none

/-- The bytes of a file. -/
def bytes? (path : String) : Option (List UInt8) :=
  (t.locate path).bind fun place => t.files.lookup place

/-- The text of a file. -/
def text? (path : String) : Option String :=
  (t.bytes? path).bind Utf8.text?

/-- The tree with other bytes in the file at a place. -/
def put (place : List String) (bytes : List UInt8) : FileTree :=
  if t.files.any (·.1 = place) then
    { t with files := t.files.map fun f => if f.1 = place then (place, bytes) else f }
  else { t with files := t.files ++ [(place, bytes)] }

/-- The tree with a text in a file, if a file can be there. -/
def write? (path text : String) : Option FileTree := do
  let place ← t.locate path
  if t.isDirectory place then none else return t.put place (Utf8.encode text)

/-- The tree with a directory, if it is there or can be made. -/
def makeDirectory? (path : String) : Option FileTree := do
  let place ← t.locate path
  if t.files.any (·.1 = place) then none
  else if t.isDirectory place then return t
  else return { t with directories := t.directories ++ [place] }

/-- Keep a changed tree. Tells whether there is one. -/
def keep (changed : FileTree → Option FileTree) : StateM FileTree Bool := do
  match changed (← get) with
  | some t => do
    set t
    return true
  | none => return false

/-- Access to the files of a tree. -/
def access : FileAccess (StateM FileTree) where
  read path := do return (← get).text? path
  write path text := keep (·.write? path text)
  makeDirectory path := keep (·.makeDirectory? path)

/-- The tree of some paths and their bytes. -/
def ofList (files : List (String × List UInt8)) : FileTree where
  files := files.map fun f => ((f.1.splitOn "/").filter (!staysPut ·), f.2)

/-- The paths and texts of the files that do not lie above the tree. -/
def texts : List (String × String) :=
  (t.files.filter (·.1.head? ≠ some "..")).map fun f =>
    (String.intercalate "/" f.1, Utf8.lossyText f.2)

end FileTree

end Storyboard
