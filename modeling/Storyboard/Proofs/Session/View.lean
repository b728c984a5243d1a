import Storyboard.Proofs.Session.Reachable

/-!
# One copy of the elements

A session keeps the elements of its active scene twice, and the stored copy lags behind. Looked
at as a whole it is an editor with one copy: a project, the name of the active scene and the
canvas. The main statement is that every action of a reachable session does to the whole exactly
what it does in that editor, so that no edit is lost on the way and none reaches another scene.
-/

namespace Storyboard

/-- An editor that keeps every element once. -/
structure View where
  project : Project
  /-- The name of the active scene. -/
  current : String
  canvas : Canvas
deriving DecidableEq

namespace View

variable (config : SessionConfig) (n : Nat) (v : View)

/-- The elements of the active scene. -/
def elements : List Element :=
  v.project.scenes.elements v.current

/-- Other scenes, one of which is active. -/
def turnTo (t : SceneTable) (name : String) : View :=
  { v with project.scenes := t, current := name }

/-- Change the elements of the active scene, and nothing else. -/
def change (f : List Element → List Element) : View :=
  { v with project.scenes := v.project.scenes.modify v.current f }

/-- Other variables. -/
def assign (vars : VariableStore) : View :=
  { v with project.vars := vars }

/-- A new element, within the canvas. -/
def newElement (kind : Kind) (p : Position) : Element :=
  (Element.create n kind p v.canvas).fit v.canvas v.project.metadata.fontSizes

/-- A menu bar, at the bottom over the full width. -/
def menu : Element :=
  { id := .numbered "menu" n, kind := .menu, position := ⟨0, v.canvas.height - menuHeight⟩,
    size := .px v.canvas.width menuHeight, text := "", style := {}, trigger := none }

/-- Edit the elements of a name. -/
def edit (id : ElementId) (edit : Edit) : View :=
  let ctx : EditContext := ⟨v.canvas, v.project.metadata.fontSizes, config.minElementSize⟩
  v.change (·.map fun e => if e.id = id then edit.apply ctx e else e)

/-- What an action that is not refused gives, and the editor after it. The next unused number is
`n`. -/
def act : Action → Outcome × View
  | .addElement kind p => (.id (v.newElement n kind p).id, v.change (· ++ [v.newElement n kind p]))
  | .removeElement id =>
    (((v.elements.find? (·.id = id)).map .element).getD .nothing, v.change (·.eraseP (·.id = id)))
  | .edit id edit => (.nothing, v.edit config id edit)
  | .updateGesture g p => (.nothing, v.edit config g.element (g.edit p))
  | .switchTo name => (.nothing, { v with current := name })
  | .addScene =>
    let name := v.project.scenes.nextName
    (.text name, v.turnTo (v.project.scenes.add name [v.menu n]) name)
  | .renameScene name => (.nothing, v.turnTo (v.project.scenes.relabel v.current name) name)
  | .duplicateScene name =>
    let copies := v.elements.mapIdx fun i e => { e with id := .numbered e.kind.tag (n + i) }
    (.nothing, v.turnTo (v.project.scenes.add name copies) name)
  | .deleteScene =>
    let name := (SceneTable.neighbour v.current v.project.scenes.names).getD ""
    (.text name, v.turnTo (v.project.scenes.drop v.current) name)
  | .snapshot => (.nothing, v)
  | .addVariable name => (.nothing, v.assign ⟨v.project.vars.entries ++ [(name, "")]⟩)
  | .editVariable name value => (.nothing, v.assign (v.project.vars.insert name value))
  | .renameVariable old new =>
    (.nothing, v.assign ⟨Entries.rename old new v.project.vars.entries⟩)
  | .deleteVariable name =>
    (.text ((v.project.vars.get? name).getD ""),
      v.assign ⟨Entries.erase name v.project.vars.entries⟩)
  | .setMetadata title author description =>
    (.nothing, { v with
      project.metadata.title := title
      project.metadata.author := author
      project.metadata.description := description })
  | .setBackground background =>
    (.nothing, { v with project.metadata.background := background.filter (· ≠ "") })
  | .setFontSizes sizes => (.nothing, { v with project.metadata.fontSizes := sizes })
  | .setCanvas canvas => (.nothing, { v with project := v.project.fit canvas, canvas })
  | .reset =>
    let blank : View := { v with project := Session.blankProject config }
    (.nothing, blank.turnTo ⟨[⟨SceneTable.defaultName, [v.menu n]⟩]⟩ SceneTable.defaultName)
  | .exportText => (.text v.project.toText, v)
  | .importText text =>
    match (Project.ofText v.canvas n text).1 with
    | .ok p =>
      let fitted := p.fit v.canvas
      (.nothing, { v with project := fitted, current := fitted.scenes.first.name })
    | .error _ => (.nothing, v)

end View

namespace Session

variable {s s' : Session} {n m : Nat} {a : Action} {o : Outcome}

/-- The session as a whole. -/
def view (s : Session) : View :=
  ⟨s.whole, s.current, s.canvas⟩

@[simp] lemma view_project : s.view.project = s.whole := rfl

@[simp] lemma view_current : s.view.current = s.current := rfl

@[simp] lemma view_canvas : s.view.canvas = s.canvas := rfl

/-! ### What the parts of an action do to the whole -/

lemma view_elements (h : s.Consistent) : s.view.elements = s.live :=
  elements_whole h

lemma view_load (h : s.project.scenes.names.Nodup) (name : String) :
    (s.load name).view = ⟨s.project, name, s.canvas⟩ := by
  simp [view, whole, load, SceneTable.modify_elements h]

/-- Storing the live elements once more changes nothing. -/
lemma modify_whole : (s.whole.scenes.modify s.current fun _ => s.live) = s.whole.scenes := by
  simp [whole, SceneTable.modify_modify, Function.comp_def]

/-- A snapshot brings the stored elements up to date and changes nothing of the whole. -/
lemma view_whole : ({ s with project := s.whole } : Session).view = s.view := by
  simp only [view, View.mk.injEq, and_true]
  exact congrArg (fun t => { s.project with scenes := t }) modify_whole

/-- A change of the live elements is a change of the active scene, whatever happens to the copy
of its elements that is stored. -/
lemma view_change (f g : List Element → List Element) :
    ({ s with live := f s.live, project.scenes := s.project.scenes.modify s.current g } :
      Session).view = s.view.change f := by
  simp [view, whole, View.change, SceneTable.modify_modify, Function.comp_def]

lemma view_live (f : List Element → List Element) :
    ({ s with live := f s.live } : Session).view = s.view.change f := by
  simp [view, whole, View.change, SceneTable.modify_modify, Function.comp_def]

/-- An element that is added comes to the end of the active scene. -/
lemma view_addElement (kind : Kind) (p : Position) :
    (s.addElement n kind p).view = s.view.change (· ++ [s.view.newElement n kind p]) :=
  view_change (· ++ [s.newElement n kind p]) (· ++ [s.newElement n kind p])

lemma newElement_menu (v : View) : v.newElement n .menu {} = v.menu n := by
  simp [View.newElement, View.menu, Element.create, Element.fit, Element.anchor, Kind.isMenu,
    Kind.defaultSize, Size.px, Dimension.getD, Dimension.px?, Kind.tag]

lemma copies_eq (es : List Element) :
    Element.copies n es = es.mapIdx fun i e => { e with id := .numbered e.kind.tag (n + i) } :=
  List.ext_getElem (by simp [Element.copies]) fun i h₁ h₂ => by
    simp [Element.copies, Element.renumber]

/-- A session that goes on with another project shows it as it is. -/
lemma view_replaceProject {p : Project} (h : p.scenes.Valid) :
    (s.replaceProject p).view
      = { s.view with project := p.fit s.canvas, current := (p.fit s.canvas).scenes.first.name } :=
  view_load (s := { s with project := p.fit s.canvas }) (fit_valid h s.canvas).2 _

/-! ### Actions -/

lemma view_step (hs : s.Consistent) (h : Step s n a o s' m) :
    s.view.act s.config n a = (o, s'.view) := by
  have hw := whole_valid hs
  cases h with
  | addElement kind p => rw [view_addElement]; rfl
  | @removeElement id e h =>
    have hlive : s.view.elements.find? (fun e => decide (e.id = id)) = some e := by
      rw [view_elements hs]
      exact h
    rw [View.act, hlive]
    exact congrArg (Prod.mk _) (view_change (·.eraseP (·.id = id)) (·.filter (·.id ≠ id))).symm
  | edit edit h => exact congrArg (Prod.mk _) (view_live (s.editLive _ edit)).symm
  | updateGesture p h => exact congrArg (Prod.mk _) (view_live (s.editLive _ _)).symm
  | switchTo h =>
    rw [view_load (s := { s with project := s.whole }) hw.2]
    rfl
  | @addScene name hn h =>
    have hn' : name ∉ s.whole.scenes.names := by simpa using h
    have hname : s.whole.scenes.nextName = name := by simpa [whole] using hn.symm
    rw [view_addElement, newElement_menu, view_load (hw.add hn' _).2]
    simp only [View.act, view_project, hname, View.change, withScenes,
      SceneTable.modify_add hn']
    rfl
  | @renameScene name h₁ h₂ =>
    have : (s.whole.scenes.relabel s.current name).modify name (fun _ => s.live)
        = s.whole.scenes.relabel s.current name := by
      rw [SceneTable.modify_relabel (by simpa using h₂), modify_whole]
    simp only [View.act, View.turnTo, view_project, view_current]
    simp only [view, whole, withScenes] at this ⊢
    rw [this]
  | @duplicateScene name h₁ h₂ =>
    have hn' : name ∉ s.whole.scenes.names := by simpa using h₂
    rw [view_load (hw.add hn' _).2, View.act, view_elements hs, copies_eq]
    rfl
  | deleteScene h hn =>
    rw [view_load (hs.valid.drop h).2]
    simp [View.act, View.turnTo, view, withScenes, hn, whole, SceneTable.drop_modify]
  | snapshot => rw [view_whole]; rfl
  | addVariable h => rfl
  | editVariable value h => rfl
  | renameVariable h₁ h₂ => rfl
  | deleteVariable h =>
    simp only [View.act, view, whole_vars, h]
    rfl
  | setMetadata title author description => rfl
  | setBackground background => rfl
  | setFontSizes sizes => rfl
  | setCanvas canvas =>
    simp [View.act, view, whole, Session.setCanvas, Project.fit, SceneTable.fit,
      SceneTable.mapElements_modify, fonts]
  | reset =>
    simp only [Session.reset, view_addElement, newElement_menu, View.act, View.change,
      View.turnTo]
    simp [view, whole, blankProject, SceneTable.modify, SceneTable.initial, View.menu]
  | exportText => rw [view_whole]; rfl
  | importText h =>
    rw [view_replaceProject (valid_of_ofText h)]
    simp [View.act, view, h]

/-- Every action that is performed does to the whole what it does in an editor with one copy, and
the live elements stay those of the active scene. -/
theorem view_perform {admits : Action → Prop} (hs : Reachable admits s n)
    (h : s.perform n a = (.ok (o, s'), m)) :
    s.view.act s.config n a = (o, s'.view) ∧
      s'.view.project.scenes.get? s'.view.current = some ⟨s'.current, s'.live⟩ := by
  have hstep := step_of_perform hs.consistent h
  have hs' := hs.consistent.step hstep
  refine ⟨view_step hs.consistent hstep, ?_⟩
  have := SceneTable.get?_of_mem (names_whole (s := s') ▸ hs'.current_mem)
  rwa [elements_whole hs'] at this

/-- A label that is edited while its stored copy still has the old text. -/
theorem view_perform_late_edit :
    let actions : List Action :=
      [.addElement .button ⟨10, 20⟩, .addScene, .addElement .label ⟨5, 5⟩,
        .edit (.numbered "label" 2) (.text "late")]
    let s := ((Session.new {} 0).1.run 0 actions).1
    ∃ s', Reachable (fun _ => True) s 3 ∧ s.snapshot ≠ s ∧
      s.perform 3 (.duplicateScene "Copy") = (.ok (.nothing, s'), 5) ∧
      s.view.act s.config 3 (.duplicateScene "Copy") = (.nothing, s'.view) ∧
      s'.view.project.scenes.get? s'.view.current = some ⟨s'.current, s'.live⟩ := by
  intro actions s
  have hs : Reachable (fun _ => True) s 3 :=
    (Reachable.new {} 0).run (fun _ _ => trivial : ∀ a ∈ actions, True)
  exact ⟨_, hs, by decide +kernel, rfl, view_perform hs rfl⟩

end Session

end Storyboard
