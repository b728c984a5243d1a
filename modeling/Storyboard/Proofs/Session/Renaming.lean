import Storyboard.Proofs.Renaming
import Storyboard.Proofs.Session.Names
import Storyboard.Proofs.Session.Refusal

/-!
# Sessions under other names

Every action of a session commutes with giving the elements other names, as long as different names
stay different and the names that are taken next are renamed to the ones that are taken next on the
other side. So a session shows the same whatever number its next element gets.
-/

namespace Storyboard

open ElementId

variable {σ τ : ElementId → ElementId} {n m : Nat}

/-- The session with other names for its elements. -/
def Session.rename (σ : ElementId → ElementId) (s : Session) : Session :=
  { s with project := s.project.rename σ, live := s.live.map (·.rename σ) }

/-- The gesture on the element under another name. -/
def Gesture.rename (σ : ElementId → ElementId) (g : Gesture) : Gesture :=
  { g with element := σ g.element }

/-- The action on the element under another name. -/
def Action.rename (σ : ElementId → ElementId) : Action → Action
  | .removeElement id => .removeElement (σ id)
  | .edit id e => .edit (σ id) e
  | .updateGesture g p => .updateGesture (g.rename σ) p
  | a => a

/-- The outcome with other names. -/
def Outcome.rename (σ : ElementId → ElementId) : Outcome → Outcome
  | .id i => .id (σ i)
  | .element e => .element (e.rename σ)
  | o => o

/-- The error about the element under another name. -/
def SessionError.rename (σ : ElementId → ElementId) : SessionError → SessionError
  | .unknownElement id => .unknownElement (σ id)
  | e => e

/-- The result with other names. -/
def ActionResult.rename (σ : ElementId → ElementId) : ActionResult → ActionResult
  | .ok (o, s) => .ok (o.rename σ, s.rename σ)
  | .error e => .error (e.rename σ)

namespace Session

variable {s s' : Session} {a : Action} {o : Outcome} {k : Nat}

/-- To give every element its own name changes nothing. -/
lemma rename_same (s : Session) : s.rename id = s := by
  have helements (es : List Element) : es.map (·.rename id) = es := List.map_id es
  obtain ⟨⟨metadata, vars, scenes⟩, current, live, canvas, config⟩ := s
  simp [rename, Project.rename, SceneTable.rename, SceneTable.mapElements, helements]

lemma rename_rename (s : Session) : (s.rename σ).rename τ = s.rename (τ ∘ σ) := by
  simp [rename, Project.rename, SceneTable.rename, SceneTable.mapElements, Element.rename,
    Function.comp_def]

@[simp] lemma live_rename : (s.rename σ).live = s.live.map (·.rename σ) := rfl

@[simp] lemma current_rename : (s.rename σ).current = s.current := rfl

@[simp] lemma canvas_rename : (s.rename σ).canvas = s.canvas := rfl

@[simp] lemma config_rename : (s.rename σ).config = s.config := rfl

@[simp] lemma project_rename : (s.rename σ).project = s.project.rename σ := rfl

@[simp] lemma sceneNames_rename : (s.rename σ).sceneNames = s.sceneNames :=
  SceneTable.names_rename

lemma whole_rename : (s.rename σ).whole = s.whole.rename σ := by
  simp only [whole, Project.rename, project_rename, current_rename, live_rename,
    Project.mk.injEq, true_and]
  exact SceneTable.modify_rename fun _ => rfl

lemma withScenes_rename (t : SceneTable) :
    (s.rename σ).withScenes (t.rename σ) = (s.withScenes t).rename σ := rfl

lemma load_rename (name : String) : (s.rename σ).load name = (s.load name).rename σ := by
  simp [load, rename, SceneTable.elements_rename]

lemma element?_rename (hσ : Function.Injective σ) (id : ElementId) :
    (s.rename σ).element? (σ id) = (s.element? id).map (·.rename σ) := by
  simp only [element?, rename, List.find?_map, Function.comp_def, Element.rename_id, hσ.eq_iff]

lemma editLive_rename (hσ : Function.Injective σ) (id : ElementId) (edit : Edit)
    (es : List Element) :
    (s.rename σ).editLive (σ id) edit (es.map (·.rename σ))
      = (s.editLive id edit es).map (·.rename σ) := by
  simp only [editLive, List.map_map]
  refine List.map_congr_left fun e _ => ?_
  simp only [Function.comp_apply, Element.rename_id, hσ.eq_iff]
  split
  · exact edit.apply_rename _ e
  · rfl

lemma withoutElement_rename (hσ : Function.Injective σ) (id : ElementId) :
    (s.rename σ).withoutElement (σ id) = (s.withoutElement id).rename σ := by
  simp only [withoutElement, rename, Project.rename, mk.injEq, Project.mk.injEq, true_and,
    and_true]
  constructor
  · refine SceneTable.modify_rename fun es => ?_
    simp [List.filter_map, Function.comp_def, hσ.eq_iff]
  · simp [List.eraseP_map, Function.comp_def, hσ.eq_iff]

lemma addElement_rename {kind : Kind} (h : σ (numbered kind.tag n) = numbered kind.tag m)
    (p : Position) : (s.rename σ).addElement m kind p = (s.addElement n kind p).rename σ := by
  have hnew : (s.rename σ).newElement m kind p = (s.newElement n kind p).rename σ := by
    rw [newElement, Element.create_rename h, Element.fit_rename]
    rfl
  simp only [addElement, hnew]
  simp only [rename, Project.rename, mk.injEq, Project.mk.injEq, true_and, and_true]
  exact ⟨SceneTable.modify_rename fun es => by simp, by simp⟩

lemma setCanvas_rename (canvas : Canvas) :
    (s.rename σ).setCanvas canvas = (s.setCanvas canvas).rename σ := by
  have hlive : (s.live.map (·.rename σ)).map (·.fit canvas s.fonts)
      = (s.live.map (·.fit canvas s.fonts)).map (·.rename σ) := by
    simp only [List.map_map, Function.comp_def, Element.fit_rename]
  simp only [setCanvas, rename, Project.rename, fonts, ← SceneTable.fit_rename] at hlive ⊢
  rw [hlive]

lemma reset_rename (h : σ (numbered Kind.menu.tag n) = numbered Kind.menu.tag m) :
    ((s.rename σ).reset m).1 = (s.reset n).1.rename σ :=
  addElement_rename (s := { s with
    project := blankProject s.config, current := SceneTable.defaultName, live := [] }) h {}

lemma replaceProject_rename (p : Project) :
    (s.rename σ).replaceProject (p.rename σ) = (s.replaceProject p).rename σ := by
  have hload := load_rename (σ := σ) (s := { s with project := p.fit s.canvas })
    (p.fit s.canvas).scenes.first.name
  simp only [replaceProject, canvas_rename, Project.fit_rename, Project.scenes_rename,
    SceneTable.first_rename]
  exact hload

lemma consistent_rename (h : s.Consistent) : (s.rename σ).Consistent :=
  ⟨h.valid.mapElements _, by simpa using h.current_mem⟩

/-! ### Actions -/

/-- A step is a step under other names, if the names that are taken next are renamed too. -/
lemma Step.rename (hσ : Renumbers σ n m) (h : Step s n a o s' k) :
    ∃ k', Step (s.rename σ) m (a.rename σ) (o.rename σ) (s'.rename σ) k' := by
  have hinj := hσ.injective
  have hlive {id : ElementId} {e : Element} (h : s.element? id = some e) :
      (s.rename σ).element? (σ id) = some (e.rename σ) := by
    rw [element?_rename hinj, h]
    rfl
  have hwhole : ({ s with project := s.whole } : Session).rename σ
      = { s.rename σ with project := (s.rename σ).whole } := by
    rw [whole_rename]
    rfl
  cases h with
  | addElement kind p =>
    have hstep := Step.addElement (s := s.rename σ) (n := m) kind p
    rw [addElement_rename (hσ.zero _), newElement_id, ← hσ.zero, ← newElement_id n kind p] at hstep
    exact ⟨_, hstep⟩
  | @removeElement id e h =>
    have hstep := Step.removeElement (n := m) (hlive h)
    rw [withoutElement_rename hinj] at hstep
    exact ⟨_, hstep⟩
  | edit edit h =>
    have hstep := Step.edit (n := m) edit (hlive h)
    rw [live_rename, editLive_rename hinj] at hstep
    exact ⟨_, hstep⟩
  | @updateGesture g e p h =>
    have hstep := Step.updateGesture (g := g.rename σ) (n := m) p (hlive h)
    have hedit := editLive_rename (s := s) hinj g.element (g.edit p) s.live
    exact ⟨_, hedit ▸ hstep⟩
  | @switchTo name h =>
    have hstep : Step (s.rename σ) m (.switchTo name) _ _ _ := .switchTo (by simpa using h)
    rw [← hwhole, load_rename] at hstep
    exact ⟨_, hstep⟩
  | @addScene name hn h =>
    have hstep : Step (s.rename σ) m .addScene (.text name) _ _ :=
      .addScene (by simpa using hn) (by simpa using h)
    rw [whole_rename, Project.scenes_rename, ← List.map_nil, SceneTable.add_rename,
      withScenes_rename, load_rename, addElement_rename (hσ.zero _)] at hstep
    exact ⟨_, hstep⟩
  | @renameScene name h₁ h₂ =>
    have hstep := Step.renameScene (s := s.rename σ) (n := m) h₁ (by simpa using h₂)
    rw [whole_rename, Project.scenes_rename, SceneTable.relabel_rename] at hstep
    exact ⟨_, hstep⟩
  | @duplicateScene name h₁ h₂ =>
    have hcopies : Element.copies m (s.rename σ).live
        = (Element.copies n s.live).map (·.rename σ) :=
      Element.copies_rename (hσ.numberedFrom _)
    have hstep := Step.duplicateScene (s := s.rename σ) (n := m) h₁ (by simpa using h₂)
    rw [whole_rename, Project.scenes_rename, hcopies, SceneTable.add_rename, withScenes_rename,
      load_rename] at hstep
    exact ⟨_, hstep⟩
  | @deleteScene name h hn =>
    have hstep : Step (s.rename σ) m .deleteScene (.text name) _ _ :=
      .deleteScene (by simpa using h) (by simpa using hn)
    rw [project_rename, Project.scenes_rename, current_rename, SceneTable.drop_rename,
      withScenes_rename, load_rename] at hstep
    exact ⟨_, hstep⟩
  | snapshot =>
    have hstep := Step.snapshot (s := s.rename σ) (n := m)
    rw [← hwhole] at hstep
    exact ⟨_, hstep⟩
  | addVariable h => exact ⟨_, .addVariable h⟩
  | editVariable value h => exact ⟨_, .editVariable value h⟩
  | renameVariable h₁ h₂ => exact ⟨_, .renameVariable h₁ h₂⟩
  | deleteVariable h => exact ⟨_, .deleteVariable h⟩
  | setMetadata title author description => exact ⟨_, .setMetadata title author description⟩
  | setBackground background => exact ⟨_, .setBackground background⟩
  | setFontSizes sizes => exact ⟨_, .setFontSizes sizes⟩
  | setCanvas canvas =>
    have hstep := Step.setCanvas (s := s.rename σ) (n := m) canvas
    rw [setCanvas_rename] at hstep
    exact ⟨_, hstep⟩
  | reset =>
    have hstep := Step.reset (s := s.rename σ) (n := m)
    rw [reset_rename (hσ.zero _)] at hstep
    exact ⟨_, hstep⟩
  | exportText =>
    have hstep := Step.exportText (s := s.rename σ) (n := m)
    rw [← hwhole, whole_rename, Project.toText_rename] at hstep
    exact ⟨_, hstep⟩
  | @importText text p _ h =>
    have hstep := Step.importText (s := s.rename σ)
      (Project.ofText_rename (hσ.numberedFrom _) h)
    rw [replaceProject_rename] at hstep
    exact ⟨_, hstep⟩

lemma SceneNameFault.rename {name : String} {e : SessionError} (h : s.SceneNameFault name e) :
    (s.rename σ).SceneNameFault name (e.rename σ) := by
  cases h with
  | empty => exact .empty
  | taken h hn => exact .taken h (by simpa using hn)

lemma VariableNameFault.rename {name : String} {e : SessionError}
    (h : s.VariableNameFault name e) : (s.rename σ).VariableNameFault name (e.rename σ) := by
  cases h with
  | empty => exact .empty
  | reserved h => exact .reserved h
  | taken h hr hn => exact .taken h hr hn

/-- An action that is refused is refused under other names, for the same reason. -/
lemma Refused.rename (hσ : Function.Injective σ) {e : SessionError} (h : s.Refused a e) :
    (s.rename σ).Refused (a.rename σ) (e.rename σ) := by
  have hunknown {id : ElementId} (h : s.Unknown id) : (s.rename σ).Unknown (σ id) := by
    simpa [Unknown, hσ.eq_iff] using h
  cases h with
  | removeElement h => exact .removeElement (hunknown h)
  | edit edit h => exact .edit edit (hunknown h)
  | @updateGesture g p h => exact .updateGesture (g := g.rename σ) p (hunknown h)
  | switchTo h => exact .switchTo (by simpa using h)
  | addScene h =>
    have hrefused := Refused.addScene (s := s.rename σ) (by simpa using h)
    rwa [project_rename, Project.scenes_rename, SceneTable.nextName_rename] at hrefused
  | renameScene h => exact .renameScene h.rename
  | duplicateScene h => exact .duplicateScene h.rename
  | deleteScene h => exact .deleteScene (by simpa using h)
  | addVariable h => exact .addVariable h.rename
  | editVariable value h => exact .editVariable value h
  | renameUnknown new h => exact .renameUnknown new h
  | renameVariable h he => exact .renameVariable h he.rename
  | deleteVariable h => exact .deleteVariable h
  | importText h => exact .importText h

lemma created_rename : (s.rename σ).created (a.rename σ) = s.created a := by
  cases a with
  | duplicateScene name => simp [created, Action.rename, Function.comp_def]
  | _ => simp [created, Action.rename]

/-- Performing an action under other names gives what it gives, under other names. -/
theorem perform_rename (hs : s.Consistent) (hσ : Renumbers σ n m) (a : Action) :
    (s.rename σ).perform m (a.rename σ)
      = ((s.perform n a).1.rename σ, m + (s.created a).length) := by
  have hs' := consistent_rename (σ := σ) hs
  refine Prod.ext ?_ (by rw [perform_snd hs', created_rename])
  rcases h : s.perform n a with ⟨e | ⟨o, s'⟩, k⟩
  · exact (perform_eq_error hs').mpr (((perform_eq_error hs).mp (congrArg Prod.fst h)).rename
      hσ.injective)
  · obtain ⟨k', hstep⟩ := (step_of_perform hs h).rename hσ
    rw [hstep.perform hs']
    rfl

end Session

end Storyboard
