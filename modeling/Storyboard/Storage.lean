import Storyboard.Files
import Storyboard.Session.Basic

/-!
# Loading and saving

Projects and sessions come from files and go to files. A session always opens: where there is no
document to open it starts blank.
-/

namespace Storyboard

/-- Why loading or saving fails. -/
inductive StorageError
  | file (path : String)
  | document (e : DocumentError)
deriving DecidableEq, Repr

variable {m : Type → Type} [Monad m] (fs : FileAccess m)

/-- The project of a file, with its elements numbered from `n` on, and the next number. -/
def Project.load (canvas : Canvas) (n : Nat) (path : String) :
    m (Except StorageError Project × Nat) := do
  match ← fs.read path with
  | none => return (.error (.file path), n)
  | some text =>
    let (r, next) := Project.ofText canvas n text
    return (r.mapError .document, next)

/-- A session with the document of its configuration, or a blank one, and the next number. -/
def Session.openDefault (config : SessionConfig) (n : Nat) : m (Session × Nat) := do
  match ← Project.load fs config.canvas n config.documentPath with
  | (.ok p, next) => return (.ofProject config p, next)
  | (.error _, next) => return Session.new config next

/-- Save the document of a session in a directory. Gives the path of the file. -/
def Session.save (s : Session) (dir : String) : m (Except StorageError String × Session) := do
  let (text, s) := s.exportText
  let path := joinPath dir s.config.exportFileName
  if ← fs.write path text then return (.ok path, s) else return (.error (.file path), s)

end Storyboard
