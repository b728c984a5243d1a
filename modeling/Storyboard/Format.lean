import Storyboard.Document.Decoding
import Storyboard.Document.Encoding

/-!
# Formatting documents

Formatting writes a document again the way the editor itself would save it: defaults filled in,
fields of old documents carried over, fields in order. Elements can be brought back inside the
canvas on the way.
-/

namespace Storyboard

structure FormatOptions where
  /-- The canvas for which the document is meant. Menus take its width. -/
  canvas : Canvas := {}
  /-- Whether elements are brought back inside the canvas. -/
  fit : Bool := false
deriving DecidableEq, Repr

/-- The text of a project, brought back inside the canvas if that is wanted. -/
def FormatOptions.textOf (o : FormatOptions) (p : Project) : String :=
  (if o.fit then p.fit o.canvas else p).toText

/-- The formatted text of a document. -/
def format (o : FormatOptions) (text : String) : Except DocumentError String :=
  (Project.ofText o.canvas 0 text).1.map o.textOf

end Storyboard
