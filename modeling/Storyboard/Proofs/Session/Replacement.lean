import Storyboard.Proofs.Session.Renaming

/-!
# Replacing the document

A session that opens the document of a text, or goes back to a blank one, keeps its canvas and its
configuration and nothing else. What it shows afterwards is what any other session shows that does
the same, and what a session shows that begins with the document, up to the names of the elements.
-/

namespace Storyboard

open ElementId

namespace Session

variable {s t u : Session} {n m k : Nat} {text : String} {p : Project}

/-! ### Sessions that show the same -/

/-- The sessions hold the same document with the same scene active, once the elements of one are
given the names that they have in the other. -/
def Resembles (s t : Session) : Prop :=
  ∃ π : Equiv.Perm ElementId, (s.rename π).project = t.project ∧ s.current = t.current ∧
    (s.rename π).live = t.live

/-- Showing the same is an equivalence. -/
theorem resembles_equivalence : Equivalence Resembles := by
  constructor
  · intro s
    exact ⟨Equiv.refl _, congrArg project (rename_same s), rfl, congrArg live (rename_same s)⟩
  · rintro s t ⟨π, hproject, hcurrent, hlive⟩
    have hback : (s.rename π).rename π.symm = s := by
      rw [rename_rename, Equiv.symm_comp_self, rename_same]
    refine ⟨π.symm, ?_, hcurrent.symm, ?_⟩
    · rw [project_rename, ← hproject, ← project_rename, hback]
    · rw [live_rename, ← hlive, ← live_rename, hback]
  · rintro s t u ⟨π, hproject, hcurrent, hlive⟩ ⟨ρ, hproject', hcurrent', hlive'⟩
    refine ⟨π.trans ρ, ?_, hcurrent.trans hcurrent', ?_⟩
    · rw [Equiv.coe_trans, ← rename_rename, project_rename, hproject, ← project_rename,
        hproject']
    · rw [Equiv.coe_trans, ← rename_rename, live_rename, hlive, ← live_rename, hlive']

/-! ### Opening a document -/

/-- Texts that are read with different numbers are opened alike, by whatever session. -/
lemma resembles_replaceProject (hcanvas : s.canvas = t.canvas)
    (hp : Project.ofText s.canvas n text = (.ok p, k)) (m : Nat) :
    ∃ q, (Project.ofText t.canvas m text).1 = .ok q ∧
      (s.replaceProject p).Resembles (t.replaceProject q) := by
  obtain ⟨π, hπ⟩ := exists_perm_numberedFrom n m (Project.tagsOfText text)
  have hq := Project.ofText_rename hπ hp
  refine ⟨p.rename π, by rw [← hcanvas, hq], π, ?_⟩
  rw [← current_rename, ← replaceProject_rename]
  simp [replaceProject, load, hcanvas]

/-- What a session shows that goes back to a blank document follows from its canvas and its
configuration. -/
lemma resembles_reset (hcanvas : s.canvas = t.canvas)
    (hfonts : s.config.fontSizes = t.config.fontSizes) (n m : Nat) :
    (s.reset n).1.Resembles (t.reset m).1 := by
  obtain ⟨π, hπ⟩ := exists_perm_numberedFrom n m [Kind.menu.tag]
  have hmenu : π (numbered Kind.menu.tag n) = numbered Kind.menu.tag m := by
    simpa [numberedFrom_cons] using hπ
  refine ⟨π, ?_⟩
  rw [← reset_rename hmenu]
  simp [reset, addElement, newElement, fonts, blankProject, hcanvas, hfonts]

/-- Opening a text and going back to a blank document keep nothing of the old one. In two sessions
with the same canvas and configuration a text is refused for the same reason or opened alike, as a
session that begins with the document shows it; and a session that goes back to a blank document
shows what a new one with a menu shows. -/
theorem document_replaced (hcanvas : s.canvas = t.canvas) (hconfig : s.config = t.config)
    (n m k : Nat) :
    (∀ text,
      (∃ e, (s.importText n text).1 = .error (.document e) ∧
        (t.importText m text).1 = .error (.document e) ∧
        (Project.ofText s.canvas k text).1 = .error e) ∨
      ∃ s' t' p, (s.importText n text).1 = .ok s' ∧ (t.importText m text).1 = .ok t' ∧
        (Project.ofText s.canvas k text).1 = .ok p ∧ s'.Resembles t' ∧
        s'.Resembles (.ofProject { s.config with canvas := s.canvas } p)) ∧
      (s.reset n).1.Resembles (t.reset m).1 ∧
      (s.reset n).1.Resembles
        (Session.new { s.config with canvas := s.canvas, startupMenu := true } k).1 := by
  -- A session begins with a document as an empty one opens it, and blank as it is reset.
  let config : SessionConfig := { s.config with canvas := s.canvas, startupMenu := true }
  refine ⟨fun text => ?_, ?_, ?_⟩
  · rcases hs : Project.ofText s.canvas n text with ⟨e | p, i⟩
    · have hunreadable := (Project.ofText_eq_error s.canvas n).mp (congrArg Prod.fst hs)
      refine .inl ⟨e, ?_, ?_, (Project.ofText_eq_error s.canvas k).mpr hunreadable⟩
      · exact importText_eq_error.mpr ⟨e, hunreadable, rfl⟩
      · exact importText_eq_error.mpr ⟨e, hunreadable, rfl⟩
    · obtain ⟨q, hq, hst⟩ := resembles_replaceProject hcanvas hs m
      obtain ⟨r, hr, hbegin⟩ := resembles_replaceProject (t := blank config) rfl hs k
      refine .inr ⟨s.replaceProject p, t.replaceProject q, r, ?_, ?_, hr, hst, hbegin⟩
      · exact congrArg Prod.fst (importText_eq_ok.mpr ⟨p, hs, rfl⟩)
      · exact congrArg Prod.fst (importText_eq_ok.mpr ⟨q, Prod.ext hq rfl, rfl⟩)
  · exact resembles_reset hcanvas (congrArg SessionConfig.fontSizes hconfig) n m
  · exact resembles_reset (t := blank config) rfl rfl n k

/-- A session with a late edit, metadata, a variable and a second scene opens a document as a new
one does, with other numbers. -/
theorem document_replaced_late_edit :
    let text := "\x7b\"scenes\":[\x7b\"name\":\"A\",\"elements\":[\x7b\"type\":\"menu\"\x7d,"
      ++ "\x7b\"type\":\"button\",\"x\":7\x7d]\x7d]\x7d"
    let actions : List Action :=
      [.addVariable "score", .setMetadata "Tour" "" "", .addScene, .addElement .button ⟨10, 20⟩,
        .edit (.numbered "button" 2) (.text "late")]
    let start := Session.new { startupMenu := true } 0
    let s := (start.1.run start.2 actions).1
    let t := (Session.new { startupMenu := true } 5).1
    s.snapshot ≠ s ∧ ∃ s' t',
      (s.importText 3 text).1 = .ok s' ∧ (t.importText 6 text).1 = .ok t' ∧ s'.Resembles t' ∧
        s'.live.map (·.id) = [⟨"menu_3"⟩, ⟨"button_4"⟩] ∧
        t'.live.map (·.id) = [⟨"menu_6"⟩, ⟨"button_7"⟩] := by
  intro text actions start s t
  have hids : (s.importText 3 text).1.toOption.map (·.live.map (·.id))
        = some [⟨"menu_3"⟩, ⟨"button_4"⟩] ∧
      (t.importText 6 text).1.toOption.map (·.live.map (·.id))
        = some [⟨"menu_6"⟩, ⟨"button_7"⟩] := by
    decide +kernel
  have hcanvas : s.canvas = t.canvas ∧ s.config = t.config := by decide +kernel
  obtain ⟨himport, -⟩ := document_replaced hcanvas.1 hcanvas.2 3 6 0
  refine ⟨by decide +kernel, ?_⟩
  rcases himport text with ⟨e, he, -⟩ | ⟨s', t', p, hs, ht, -, hst, -⟩
  · rw [he] at hids
    exact absurd hids.1 (by simp [Except.toOption])
  · rw [hs, ht] at hids
    exact ⟨s', t', hs, ht, hst, Option.some.inj hids.1, Option.some.inj hids.2⟩

end Session

end Storyboard
