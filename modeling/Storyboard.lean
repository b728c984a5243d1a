import Storyboard.Canvas
import Storyboard.Color
import Storyboard.CommandLine.Arguments
import Storyboard.CommandLine.Command
import Storyboard.Document.Basic
import Storyboard.Document.Decoding
import Storyboard.Document.ElementEntry
import Storyboard.Document.Encoding
import Storyboard.Document.Lenient
import Storyboard.Editor
import Storyboard.Element.Basic
import Storyboard.Element.Id
import Storyboard.Element.Kind
import Storyboard.Element.Layout
import Storyboard.Element.Trigger
import Storyboard.Entries
import Storyboard.Files
import Storyboard.Font
import Storyboard.Format
import Storyboard.Interpolation
import Storyboard.Json.Draft
import Storyboard.Json.Read
import Storyboard.Json.Token
import Storyboard.Json.Value
import Storyboard.Lint
import Storyboard.Main
import Storyboard.Number.Binary
import Storyboard.Number.Decimal
import Storyboard.Number.Fraction
import Storyboard.Number.Numeral
import Storyboard.Number.Typed
import Storyboard.Project
import Storyboard.Proofs.Color
import Storyboard.Proofs.Document.Basic
import Storyboard.Proofs.Document.Canonical
import Storyboard.Proofs.Document.Element
import Storyboard.Proofs.Document.ElementEntry
import Storyboard.Proofs.Document.Opacity
import Storyboard.Proofs.Document.Project
import Storyboard.Proofs.Document.Settings
import Storyboard.Proofs.Element.Basic
import Storyboard.Proofs.Element.Kind
import Storyboard.Proofs.Element.Savable
import Storyboard.Proofs.Entries
import Storyboard.Proofs.Font
import Storyboard.Proofs.Format
import Storyboard.Proofs.Interpolation
import Storyboard.Proofs.Json.Draft
import Storyboard.Proofs.Json.Read
import Storyboard.Proofs.Json.Text
import Storyboard.Proofs.Number.Whole
import Storyboard.Proofs.SceneTable
import Storyboard.Proofs.Session.Reachable
import Storyboard.Proofs.Session.Savable
import Storyboard.Proofs.Session.Saving
import Storyboard.Proofs.Session.Step
import Storyboard.Proofs.Session.View
import Storyboard.Proofs.Variables
import Storyboard.Scene
import Storyboard.Session.Action
import Storyboard.Session.Basic
import Storyboard.Session.Edit
import Storyboard.Session.Gesture
import Storyboard.Session.Menu
import Storyboard.Storage
import Storyboard.Text.Blank
import Storyboard.Text.Capital
import Storyboard.Text.Digits
import Storyboard.Text.Hidden
import Storyboard.Text.Quoted
import Storyboard.Text.Utf8
import Storyboard.Variables
import Storyboard.Proofs.Document.Numbering
import Storyboard.Proofs.Session.Opening
import Storyboard.Proofs.Session.InPlace
import Storyboard.Proofs.Session.Refusal
import Storyboard.Proofs.Session.Menu
import Storyboard.Proofs.Session.Edit
import Storyboard.Proofs.Session.Names
import Storyboard.Proofs.Session.Origin
import Storyboard.Proofs.Session.MenuBar
import Storyboard.Proofs.Session.Reopening
import Storyboard.Proofs.Session.Place
import Storyboard.Proofs.Session.Style
import Storyboard.Proofs.Renaming
import Storyboard.Proofs.Session.Renaming
import Storyboard.Proofs.Session.Replacement
import Storyboard.Proofs.Editor.Call
import Storyboard.Proofs.Editor.Gesture
import Storyboard.Proofs.Editor.Renaming
import Storyboard.Proofs.Editor.Failure
import Storyboard.Proofs.Lint
import Storyboard.Proofs.Editor.Lint
import Storyboard.Proofs.Session.Containment
import Storyboard.Proofs.Session.WellFormed
import Storyboard.Proofs.Reference
import Storyboard.Proofs.Warnings
import Storyboard.Proofs.Json.Acceptance
import Storyboard.Proofs.Document.Shape
import Storyboard.Proofs.Session.Independence
import Storyboard.Proofs.Session.Gesture
import Storyboard.Proofs.Document.Trigger
import Storyboard.Proofs.Scanning
import Storyboard.Proofs.Number.Nearest
import Storyboard.Proofs.Number.Shortest
import Storyboard.Proofs.Json.Number
import Storyboard.Proofs.Document.Rereading
import Storyboard.Scene.InPlace
import Storyboard.Proofs.SceneTable.InPlace
import Storyboard.Variables.InPlace
import Storyboard.Proofs.Variables.InPlace
import Storyboard.Proofs.Number.Typed
import Storyboard.Proofs.Editor.Property
import Storyboard.Color.Bytes
import Storyboard.Proofs.Color.Notation
import Storyboard.Proofs.Canvas
import Storyboard.Proofs.Number.Lenient
import Storyboard.Proofs.Document.Keys
