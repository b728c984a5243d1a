import Storyboard.CommandLine.Command

/-!
# The program

The command line on the files of the system.
-/

namespace Storyboard

/-- Whether an action on files succeeds. -/
def succeeds (act : IO Unit) : IO Bool := do
  try
    act
    return true
  catch _ => return false

/-- The text of a file of the system. -/
def readText (path : String) : IO (Option String) := do
  try
    let bytes ← IO.FS.readBinFile path
    return Text.Utf8.text? bytes.toList
  catch _ => return none

/-- Make a directory of the system. Tells whether it is there afterwards: of all that a path can
lead to, only a directory can be followed by `.` there. -/
def makeDirectory (path : String) : IO Bool := do
  if ← succeeds (IO.FS.createDir path) then return true
  else succeeds (discard (IO.FS.realPath (path ++ "/.")))

/-- Access to the files of the system. -/
def systemFiles : FileAccess IO where
  read := readText
  write path text := succeeds (IO.FS.writeFile path text)
  makeDirectory := makeDirectory

end Storyboard

def main (words : List String) : IO UInt32 := do
  let report ← Storyboard.CommandLine.run Storyboard.systemFiles words
  IO.print report.out
  match report.message with
  | some message => IO.eprintln ("Error: " ++ message)
  | none => pure ()
  return report.code.toUInt32
