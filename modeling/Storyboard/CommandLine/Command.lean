import Storyboard.CommandLine.Arguments
import Storyboard.Format
import Storyboard.Lint
import Storyboard.Storage

/-!
# Commands

What the command line can do with documents: check them, summarise them, start a blank one,
format them, and show their texts with the variables filled in. A run ends with an exit code,
what it prints, and a message if it fails.
-/

namespace Storyboard

open Text

inductive Command
  /-- Report what refers to nothing; fail on warnings if they are denied. -/
  | lint (input : String) (denyWarnings : Bool)
  /-- Print metadata, variables and the sizes of the scenes. -/
  | info (input : String)
  /-- Write a blank document into a directory. -/
  | new (out title : String)
  /-- Format a document, in its place or as output. -/
  | fmt (input : String) (write : Bool) (canvas : String) (fit : Bool)
  /-- Show the texts of all scenes or of one. -/
  | preview (input : String) (scene : Option String)
deriving DecidableEq, Repr

/-! ### Reading the command line -/

namespace CommandLine

/-- The only operand, which must not be empty. -/
def Parsed.input? (p : Parsed) : Option String :=
  match p.operands with
  | [input] => if input = "" then none else some input
  | _ => none

/-- The flags and options of a command. -/
def usage? (name : String) : Option Usage :=
  if name = "lint" ∨ name = "validate" then some { flags := [("deny-warnings", none)] }
  else if name = "info" then some {}
  else if name = "new" then some { options := [("out", some 'o'), ("title", none)] }
  else if name = "fmt" then
    some { flags := [("write", some 'w'), ("fit", none)], options := [("canvas", none)] }
  else if name = "preview" then some { options := [("scene", none)] }
  else none

/-- The command of a name and what the words after it hold. -/
def command? (name : String) (p : Parsed) : Option Command :=
  if name = "lint" ∨ name = "validate" then p.input?.map (.lint · (p.has "deny-warnings"))
  else if name = "info" then p.input?.map .info
  else if name = "new" then
    let out := (p.option? "out").getD "."
    if p.operands = [] ∧ out ≠ "" then some (.new out ((p.option? "title").getD "")) else none
  else if name = "fmt" then
    p.input?.map (.fmt · (p.has "write") ((p.option? "canvas").getD "1280x720") (p.has "fit"))
  else if name = "preview" then p.input?.map (.preview · (p.option? "scene"))
  else none

/-- Whether a word holds nothing but the flag for log output. -/
def isVerbose (word : String) : Bool :=
  match word.toList with
  | '-' :: 'v' :: letters => letters.all (· = 'v')
  | cs => cs = "--verbose".toList

/-- The command of the words of a command line, unless they are wrong. -/
def parse? : List String → Option Command
  | [] => none
  | word :: words =>
    if isVerbose word then parse? words
    else do
      let u ← usage? word
      let p ← u.parse {} words
      command? word p

end CommandLine

/-! ### Runs -/

/-- How a run ends. -/
structure Report where
  code : Nat := 0
  out : String := ""
  message : Option String := none
deriving DecidableEq, Repr

namespace Report

/-- A run that fails. Only the first line of its message is kept. -/
def failure (message : String) : Report :=
  { code := 1, message := some (.ofList (message.toList.takeWhile (· ≠ '\n'))) }

/-- The end of a run with wrong words. -/
def wrongUsage : Report :=
  { code := 2 }

end Report

/-- Lines of a text, each with its end. -/
def unlines (lines : List String) : String :=
  String.join (lines.map (· ++ "\n"))

namespace Diagnostic

/-- The diagnostic as a line. -/
def line (d : Diagnostic) : String :=
  (if d.isWarning then "warning" else "info") ++ "[" ++ d.rule ++ "] " ++ d.scene ++ ": " ++
    d.message

end Diagnostic

namespace Project

/-- The report of lint on the project of a file. -/
def lintReport (path : String) (denyWarnings : Bool) (p : Project) : Report :=
  let found := p.lint
  let warnings := (found.filter (·.isWarning)).length
  let summary := path ++ ": " ++ toString p.scenes.size ++ " scene(s), " ++
    toString found.length ++ " finding(s)"
  let out := unlines (found.map (·.line) ++ [summary])
  if denyWarnings ∧ 0 < warnings then
    { Report.failure (toString warnings ++ " warning(s) in " ++ path) with out }
  else { out }

/-- The summary of a project. -/
def infoText (p : Project) : String :=
  let m := p.metadata
  let size (c : FontCategory) := c.name ++ " " ++ toString (m.fontSizes.px c)
  unlines <|
    ["Title:       " ++ m.title, "Author:      " ++ m.author, "Description: " ++ m.description,
      "Background:  " ++ m.background.getD "(none)",
      "Font sizes:  " ++ String.intercalate " / " (FontCategory.all.map size),
      "Variables (" ++ toString p.vars.size ++ "):"]
    ++ (p.vars.entries.map fun v => "  " ++ v.1 ++ " = " ++ quoted v.2)
    ++ ["Scenes (" ++ toString p.scenes.size ++ "):"]
    ++ p.scenes.scenes.map fun s =>
      "  " ++ s.name ++ " (" ++ toString s.elements.length ++ " element(s))"

/-- A text with blanks up to a width. -/
def padded (width : Nat) (s : String) : String :=
  s ++ .ofList (List.replicate (width - s.length) ' ')

/-- The line for an element, if it shows a text. -/
def previewLine? (vars : VariableStore) (e : Element) : Option String :=
  if e.kind.hasText ∧ e.text ≠ "" then
    let filled := Interpolation.ofText vars e.text
    some ("  " ++ padded 14 e.kind.tag ++ " " ++ e.text ++
      (if filled.hasVariables then " -> " ++ filled.evaluated else ""))
  else none

/-- The texts of a scene. -/
def sceneLines (vars : VariableStore) (s : Scene) : List String :=
  ("[" ++ s.name ++ "]") :: s.elements.filterMap (previewLine? vars)

/-- The texts of all scenes or of one. -/
def previewText (p : Project) (only : Option String) : String :=
  let shown := p.scenes.scenes.filter fun s => only.all (· = s.name)
  unlines (shown.flatMap (sceneLines p.vars))

/-- The report of a preview. -/
def previewReport (only : Option String) (p : Project) : Report :=
  match only with
  | some name =>
    if p.scenes.contains name then { out := p.previewText only }
    else .failure ("No scene named " ++ quoted name)
  | none => { out := p.previewText none }

end Project

namespace Command

variable {m : Type → Type} [Monad m] (fs : FileAccess m)

/-- Report on the project of a file. -/
def onProject (path : String) (report : Project → Report) : m Report := do
  match ← Project.load fs {} 0 path with
  | (.ok p, _) => return report p
  | (.error (.file path), _) => return .failure ("Failed to read " ++ path)
  | (.error (.document _), _) => return .failure ("Failed to parse " ++ path)

/-- Write a blank document with a title into a directory. -/
def runNew (out title : String) : m Report := do
  let s := ((Session.new { startupMenu := true } 0).1.setMetadata title "" "")
  if ← fs.makeDirectories out then
    match ← s.save fs out with
    | (.ok path, _) => return { out := unlines ["Wrote " ++ path] }
    | (.error _, _) => return .failure "Failed to write document"
  else return .failure ("Failed to create " ++ out)

/-- Format a document. -/
def runFmt (input : String) (write : Bool) (canvas : String) (fit : Bool) : m Report := do
  match Canvas.ofPreset? canvas with
  | none => return .failure ("Invalid canvas size " ++ quoted canvas)
  | some canvas =>
    match ← fs.read input with
    | none => return .failure ("Failed to read " ++ input)
    | some text =>
      match format { canvas, fit } text with
      | .error _ => return .failure ("Failed to parse " ++ input)
      | .ok formatted =>
        if !write then return { out := unlines [formatted] }
        else if ← fs.write input (unlines [formatted]) then return {}
        else return .failure ("Failed to write " ++ input)

/-- Run a command. -/
def run : Command → m Report
  | .lint input denyWarnings => onProject fs input (·.lintReport input denyWarnings)
  | .info input => onProject fs input fun p => { out := p.infoText }
  | .new out title => runNew fs out title
  | .fmt input write canvas fit => runFmt fs input write canvas fit
  | .preview input scene => onProject fs input (·.previewReport scene)

end Command

/-- Run the words of a command line. -/
def CommandLine.run {m : Type → Type} [Monad m] (fs : FileAccess m) (words : List String) :
    m Report :=
  match CommandLine.parse? words with
  | some c => c.run fs
  | none => return .wrongUsage

end Storyboard
