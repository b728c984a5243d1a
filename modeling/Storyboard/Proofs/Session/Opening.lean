import Storyboard.Proofs.Document.Numbering
import Storyboard.Proofs.Format
import Storyboard.Proofs.Session.Reachable

/-!
# Opening and saving

A session that opens a document and saves it at once writes what formatting writes when it brings
elements back inside the canvas of the session. Opening numbers the elements from another number
on, and takes the first scene as the live one; neither shows in the text.
-/

namespace Storyboard

namespace FormatOptions

variable {o : FormatOptions}

/-- The text of a project says nothing of the names of its elements. -/
lemma textOf_anonymous (o : FormatOptions) (p : Project) : o.textOf p.anonymous = o.textOf p := by
  change (o.shape p.anonymous).toText = (o.shape p).toText
  rw [← shape_anonymous, Project.toText_anonymous]

end FormatOptions

/-- Formatting may number the elements from any number on. -/
lemma format_eq_map (o : FormatOptions) (n : Nat) (text : String) :
    format o text = (Project.ofText o.canvas n text).1.map o.textOf := by
  have key : ∀ r : Except DocumentError Project,
      r.map o.textOf = (r.map Project.anonymous).map o.textOf := by
    rintro (e | p)
    · rfl
    · exact congrArg Except.ok (o.textOf_anonymous p).symm
  rw [format, key, key (Project.ofText o.canvas n text).1, Project.anonymous_ofText o.canvas 0 n]

namespace Session

variable {s : Session} {n : Nat}

/-- Right after a scene was loaded there is nothing to store. -/
lemma whole_load (h : s.project.scenes.names.Nodup) (name : String) :
    (s.load name).whole = s.project := by
  simp [whole, load, SceneTable.modify_elements h]

lemma exportText_replaceProject {p : Project} (h : p.scenes.Valid) :
    (s.replaceProject p).exportText = ((p.fit s.canvas).toText, s.replaceProject p) := by
  have hwhole : (s.replaceProject p).whole = p.fit s.canvas :=
    whole_load (s := { s with project := p.fit s.canvas }) (fit_valid h s.canvas).2 _
  rw [exportText, snapshot_eq (consistent_replaceProject h), hwhole]
  rfl

/-- A document is opened exactly where formatting for the canvas of the session accepts it. Saved
next, it is the formatted text, whatever the session held before; otherwise both give the same
error. -/
theorem exportText_after_importText (s : Session) (n : Nat) (text : String) :
    match format { canvas := s.canvas, fit := true } text with
    | .ok out => ∃ s' m, s.perform n (.importText text) = (.ok (.nothing, s'), m) ∧
        ∀ k, s'.perform k .exportText = (.ok (.text out, s'), k)
    | .error e => ∃ m, s.perform n (.importText text) = (.error (.document e), m) := by
  rw [format_eq_map _ n]
  rcases h : Project.ofText s.canvas n text with ⟨_ | p, m⟩
  · exact ⟨m, by simp [perform, importText, h, quiet, Except.map]⟩
  · refine ⟨s.replaceProject p, m, ?_, fun k => ?_⟩
    · simp [perform, importText, h, quiet, Except.map]
    · rw [perform, exportText_replaceProject (valid_of_ofText h)]
      rfl

end Session

end Storyboard
