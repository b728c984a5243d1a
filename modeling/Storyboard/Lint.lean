import Storyboard.Interpolation
import Storyboard.Project
import Storyboard.Text.Quoted

/-!
# Lint

Renaming a scene or a variable leaves alone what refers to it. Lint finds what refers to nothing:
triggers whose scene or variable is not there, and texts that refer to variables that are not
there. It also points out empty scenes.
-/

namespace Storyboard

open Text

inductive Severity
  /-- The player will misbehave. -/
  | warning
  /-- Probably meant so, but worth a look. -/
  | info
deriving DecidableEq, Repr

/-- What a diagnostic has found. -/
inductive Finding
  | unknownScene (target : String)
  | unknownVariable (name : String)
  | unknownReturn (name : String)
  | undefinedReference (name : String)
  | emptyScene
deriving DecidableEq, Repr

namespace Finding

def severity : Finding → Severity
  | .emptyScene => .info
  | _ => .warning

def rule : Finding → String
  | .unknownScene _ => "unknown-scene-target"
  | .unknownVariable _ | .unknownReturn _ => "unknown-variable-target"
  | .undefinedReference _ => "undefined-variable-ref"
  | .emptyScene => "empty-scene"

end Finding

structure Diagnostic where
  scene : String
  element : Option ElementId
  finding : Finding
deriving DecidableEq, Repr

namespace Diagnostic

def severity (d : Diagnostic) : Severity :=
  d.finding.severity

def rule (d : Diagnostic) : String :=
  d.finding.rule

def isWarning (d : Diagnostic) : Bool :=
  d.severity = .warning

/-- The name of the element, as messages show it. -/
def subject (d : Diagnostic) : String :=
  "`" ++ (d.element.map (·.text)).getD "" ++ "`"

def message (d : Diagnostic) : String :=
  match d.finding with
  | .unknownScene target => d.subject ++ " changes to unknown scene " ++ quoted target ++ "."
  | .unknownVariable name => d.subject ++ " sets unknown variable " ++ quoted name ++ "."
  | .unknownReturn name =>
    d.subject ++ " stores the app result in unknown variable " ++ quoted name ++ "."
  | .undefinedReference name =>
    d.subject ++ " references undefined variable `$" ++ name ++ "`."
  | .emptyScene => "Scene " ++ quoted d.scene ++ " is empty."

end Diagnostic

namespace Project

variable (p : Project)

/-! ### Rules -/

/-- What is wrong with a trigger. -/
def triggerFinding : Trigger → Option Finding
  | .changeScene target =>
    if p.scenes.contains target then none else some (.unknownScene target)
  | .setVariable name _ =>
    if p.vars.contains name then none else some (.unknownVariable name)
  | .externalApp _ name =>
    if name = "" ∨ p.vars.contains name then none else some (.unknownReturn name)
  | .playVideo _ | .playImage _ => none

/-- What is wrong with a text. -/
def textFindings (text : String) : List Finding :=
  ((Reference.names text).filter fun name => !p.vars.contains name).map .undefinedReference

/-- What a rule finds in the elements, scene after scene. -/
def elementDiagnostics (rule : Element → List Finding) : List Diagnostic :=
  p.scenes.scenes.flatMap fun s =>
    s.elements.flatMap fun e => (rule e).map fun f => ⟨s.name, some e.id, f⟩

/-- The triggers whose target is not there. -/
def lintTriggers : List Diagnostic :=
  p.elementDiagnostics fun e => (e.trigger.bind p.triggerFinding).toList

/-- The texts that refer to what is not there. -/
def lintTexts : List Diagnostic :=
  p.elementDiagnostics fun e => p.textFindings e.text

/-- The scenes without elements. -/
def lintScenes : List Diagnostic :=
  (p.scenes.scenes.filter fun s => s.elements.isEmpty).map fun s => ⟨s.name, none, .emptyScene⟩

/-- Everything that lint finds. -/
def lint : List Diagnostic :=
  p.lintTriggers ++ p.lintTexts ++ p.lintScenes

end Project

end Storyboard
