import Storyboard.Proofs.SceneTable
import Storyboard.Session.Action

/-!
# Steps of a session

What each action does when it is performed, said once for all that is proved about histories. In
a consistent session the active scene is one scene of the table, so a snapshot stores the live
elements in its place, and no inner operation can fail after the checks that come before it.
-/

namespace Storyboard

namespace Session

variable {s s' : Session} {n m : Nat} {a : Action} {o : Outcome}

/-- The table has scenes of different names, and the active one is among them. -/
structure Consistent (s : Session) : Prop where
  valid : s.project.scenes.Valid
  current_mem : s.current ∈ s.project.scenes.names

/-- The project as it stands: the live elements in the place of the stored ones. -/
def whole (s : Session) : Project :=
  { s.project with scenes := s.project.scenes.modify s.current fun _ => s.live }

/-- The session with other scenes. -/
def withScenes (s : Session) (t : SceneTable) : Session :=
  { s with project.scenes := t }

/-- The session with an element gone, live and stored. -/
def withoutElement (s : Session) (id : ElementId) : Session :=
  { s with
    live := s.live.eraseP (·.id = id)
    project.scenes := s.project.scenes.modify s.current (·.filter (·.id ≠ id)) }

/-- The live element of a name after an edit, and every other element as it is. -/
def editLive (s : Session) (id : ElementId) (edit : Edit) (es : List Element) : List Element :=
  es.map fun e => if e.id = id then edit.apply s.editContext e else e

@[simp] lemma whole_metadata : s.whole.metadata = s.project.metadata := rfl

@[simp] lemma whole_vars : s.whole.vars = s.project.vars := rfl

@[simp] lemma names_whole : s.whole.scenes.names = s.project.scenes.names := by
  simp [whole]

lemma whole_valid (h : s.Consistent) : s.whole.scenes.Valid :=
  h.valid.modify

lemma elements_whole (h : s.Consistent) : s.whole.scenes.elements s.current = s.live :=
  SceneTable.elements_modify h.current_mem

lemma snapshot_eq (h : s.Consistent) : s.snapshot = { s with project := s.whole } := by
  simp [snapshot, whole, SceneTable.store?_of_mem h.current_mem]

/-- How a session goes on from `s` when the action is performed and `n` is the next unused
number: what the action gives, the session after it and the next number then. -/
inductive Step (s : Session) (n : Nat) : Action → Outcome → Session → Nat → Prop
  | addElement (kind : Kind) (p : Position) :
      Step s n (.addElement kind p) (.id (s.newElement n kind p).id) (s.addElement n kind p) (n + 1)
  | removeElement {id : ElementId} {e : Element} (h : s.element? id = some e) :
      Step s n (.removeElement id) (.element e) (s.withoutElement id) n
  | edit {id : ElementId} {e : Element} (edit : Edit) (h : s.element? id = some e) :
      Step s n (.edit id edit) .nothing { s with live := s.editLive id edit s.live } n
  | updateGesture {g : Gesture} {e : Element} (p : Position) (h : s.element? g.element = some e) :
      Step s n (.updateGesture g p) .nothing
        { s with live := s.editLive g.element (g.edit p) s.live } n
  | switchTo {name : String} (h : name ∈ s.project.scenes.names) :
      Step s n (.switchTo name) .nothing (({ s with project := s.whole } : Session).load name) n
  | addScene {name : String} (hn : name = s.project.scenes.nextName)
      (h : name ∉ s.project.scenes.names) :
      Step s n .addScene (.text name)
        (((s.withScenes (s.whole.scenes.add name [])).load name).addElement n .menu {}) (n + 1)
  | renameScene {name : String} (h₁ : name ≠ "") (h₂ : name ∉ s.project.scenes.names) :
      Step s n (.renameScene name) .nothing
        { s.withScenes (s.whole.scenes.relabel s.current name) with current := name } n
  | duplicateScene {name : String} (h₁ : name ≠ "") (h₂ : name ∉ s.project.scenes.names) :
      Step s n (.duplicateScene name) .nothing
        ((s.withScenes (s.whole.scenes.add name (Element.copies n s.live))).load name)
        (n + s.live.length)
  | deleteScene {name : String} (h : 1 < s.project.scenes.size)
      (hn : SceneTable.neighbour s.current s.project.scenes.names = some name) :
      Step s n .deleteScene (.text name)
        ((s.withScenes (s.project.scenes.drop s.current)).load name) n
  | snapshot : Step s n .snapshot .nothing { s with project := s.whole } n
  | addVariable {name : String} (h : s.project.vars.admits name = true) :
      Step s n (.addVariable name) .nothing
        (s.withVariables ⟨s.project.vars.entries ++ [(name, "")]⟩) n
  | editVariable {name : String} (value : String) (h : s.project.vars.contains name = true) :
      Step s n (.editVariable name value) .nothing
        (s.withVariables (s.project.vars.insert name value)) n
  | renameVariable {old new : String} (h₁ : s.project.vars.contains old = true)
      (h₂ : s.project.vars.admits new = true) :
      Step s n (.renameVariable old new) .nothing
        (s.withVariables ⟨Entries.rename old new s.project.vars.entries⟩) n
  | deleteVariable {name value : String} (h : s.project.vars.get? name = some value) :
      Step s n (.deleteVariable name) (.text value)
        (s.withVariables ⟨Entries.erase name s.project.vars.entries⟩) n
  | setMetadata (title author description : String) :
      Step s n (.setMetadata title author description) .nothing
        (s.setMetadata title author description) n
  | setBackground (background : Option String) :
      Step s n (.setBackground background) .nothing (s.setBackground background) n
  | setFontSizes (sizes : FontSizes) :
      Step s n (.setFontSizes sizes) .nothing (s.setFontSizes sizes) n
  | setCanvas (canvas : Canvas) : Step s n (.setCanvas canvas) .nothing (s.setCanvas canvas) n
  | reset : Step s n .reset .nothing (s.reset n).1 (n + 1)
  | exportText : Step s n .exportText (.text s.whole.toText) { s with project := s.whole } n
  | importText {text : String} {p : Project} {m : Nat}
      (h : Project.ofText s.canvas n text = (.ok p, m)) :
      Step s n (.importText text) .nothing (s.replaceProject p) m

/-- No step changes the configuration. -/
lemma Step.config_eq (h : Step s n a o s' m) : s'.config = s.config := by
  cases h <;> rfl

/-! ### One lemma for each operation that can be refused -/

lemma exists_element? {e : Element} (h : e ∈ s.live) : ∃ d, s.element? e.id = some d := by
  rw [← Option.isSome_iff_exists, element?, List.find?_isSome]
  exact ⟨e, h, by simp⟩

lemma removeElement_eq_ok {id : ElementId} {r : Element × Session} :
    s.removeElement id = .ok r ↔ ∃ e, s.element? id = some e ∧ (e, s.withoutElement id) = r := by
  unfold removeElement
  cases h : s.element? id with
  | none => simp [element, h, bind, Except.bind]
  | some e => simp [element, h, bind, Except.bind, pure, Except.pure, withoutElement]

lemma edit_eq_ok {id : ElementId} {edit : Edit} :
    s.edit id edit = .ok s' ↔
      ∃ e, s.element? id = some e ∧ { s with live := s.editLive id edit s.live } = s' := by
  unfold Session.edit
  cases h : s.element? id with
  | none => simp [element, h, bind, Except.bind]
  | some e => simp [element, h, bind, Except.bind, pure, Except.pure, editLive]

lemma switchTo_eq_ok (hs : s.Consistent) {name : String} :
    s.switchTo name = .ok s' ↔
      name ∈ s.project.scenes.names ∧ ({ s with project := s.whole } : Session).load name = s' := by
  unfold switchTo
  rw [snapshot_eq hs]
  by_cases h : name ∈ s.project.scenes.names <;> simp [h]

lemma checkSceneName_cases (s : Session) (name : String) :
    ((name ≠ "" ∧ name ∉ s.project.scenes.names) ∧ s.checkSceneName name = .ok ())
      ∨ (¬ (name ≠ "" ∧ name ∉ s.project.scenes.names)
        ∧ ∃ e, s.checkSceneName name = .error e) := by
  unfold checkSceneName
  by_cases h : name = ""
  · simp [h]
  · by_cases h' : name ∈ s.project.scenes.names <;> simp [h, h']

lemma addScene_eq_ok (hs : s.Consistent) {r : String × Session × Nat} :
    s.addScene n = .ok r ↔
      ∃ name, name = s.project.scenes.nextName ∧ name ∉ s.project.scenes.names ∧
      (name, ((s.withScenes (s.whole.scenes.add name [])).load name).addElement n .menu {},
        n + 1) = r := by
  unfold addScene
  rw [snapshot_eq hs]
  by_cases h : s.project.scenes.nextName ∈ s.project.scenes.names
  · have := SceneTable.insert?_of_mem (names_whole (s := s) ▸ h) []
    simp [this, h]
  · have := SceneTable.insert?_of_notMem SceneTable.nextName_ne (names_whole (s := s) ▸ h) []
    simp [this, h, withScenes]

lemma renameScene_eq_ok (hs : s.Consistent) {name : String} :
    s.renameScene name = .ok s' ↔ (name ≠ "" ∧ name ∉ s.project.scenes.names) ∧
      { s.withScenes (s.whole.scenes.relabel s.current name) with current := name } = s' := by
  unfold renameScene
  obtain ⟨hn, h⟩ | ⟨hn, e, h⟩ := checkSceneName_cases s name
  · have := SceneTable.rename?_of_mem (t := s.whole.scenes) hn.1 (names_whole (s := s) ▸ hn.2)
      (names_whole (s := s) ▸ hs.current_mem)
    simp [h, bind, Except.bind, pure, Except.pure, snapshot_eq hs, this, hn, withScenes]
  · simp only [h, bind, Except.bind, reduceCtorEq, false_iff]
    exact fun h' => hn h'.1

lemma duplicateScene_eq_ok (hs : s.Consistent) {name : String} {r : Session × Nat} :
    s.duplicateScene n name = .ok r ↔ (name ≠ "" ∧ name ∉ s.project.scenes.names) ∧
      ((s.withScenes (s.whole.scenes.add name (Element.copies n s.live))).load name,
        n + s.live.length) = r := by
  unfold duplicateScene
  obtain ⟨hn, h⟩ | ⟨hn, e, h⟩ := checkSceneName_cases s name
  · have := SceneTable.insert?_of_notMem hn.1 (names_whole (s := s) ▸ hn.2)
      (Element.copies n s.live)
    simp [h, bind, Except.bind, pure, Except.pure, snapshot_eq hs, this, hn, withScenes]
  · simp only [h, bind, Except.bind, reduceCtorEq, false_iff]
    exact fun h' => hn h'.1

lemma deleteScene_eq_ok (hs : s.Consistent) {r : String × Session} :
    s.deleteScene = .ok r ↔ ∃ name, 1 < s.project.scenes.size ∧
      SceneTable.neighbour s.current s.project.scenes.names = some name ∧
      (name, (s.withScenes (s.project.scenes.drop s.current)).load name) = r := by
  unfold deleteScene
  by_cases h : s.project.scenes.size ≤ 1
  · simp [h, Nat.not_lt.mpr h]
  · obtain ⟨i, e, hr, hn⟩ := SceneTable.remove?_of_mem hs.valid.2 hs.current_mem (by omega)
    simp [h, hr, hn, withScenes, Nat.lt_of_not_le h]

lemma checkVariableName_cases (s : Session) (name : String) :
    (s.project.vars.admits name = true ∧ s.checkVariableName name = .ok ())
      ∨ (s.project.vars.admits name = false ∧ ∃ e, s.checkVariableName name = .error e) := by
  unfold checkVariableName VariableStore.admits
  by_cases h : name = ""
  · simp [h]
  · by_cases h' : isReserved name <;> cases s.project.vars.contains name <;> simp [h, h']

lemma addVariable_eq_ok {name : String} :
    s.addVariable name = .ok s' ↔ s.project.vars.admits name = true ∧
      s.withVariables ⟨s.project.vars.entries ++ [(name, "")]⟩ = s' := by
  unfold addVariable
  obtain ⟨hn, h⟩ | ⟨hn, e, h⟩ := checkVariableName_cases s name
  · simp [h, hn, bind, Except.bind, pure, Except.pure, VariableStore.add?]
  · simp [h, hn, bind, Except.bind]

lemma editVariable_eq_ok {name value : String} :
    s.editVariable name value = .ok s' ↔ s.project.vars.contains name = true ∧
      s.withVariables (s.project.vars.insert name value) = s' := by
  unfold editVariable VariableStore.set?
  by_cases h : s.project.vars.contains name = true <;> simp [h]

lemma renameVariable_eq_ok {old new : String} :
    s.renameVariable old new = .ok s' ↔ (s.project.vars.contains old = true ∧
      s.project.vars.admits new = true) ∧
      s.withVariables ⟨Entries.rename old new s.project.vars.entries⟩ = s' := by
  unfold renameVariable
  by_cases h : s.project.vars.contains old = true
  · obtain ⟨hn, h'⟩ | ⟨hn, e, h'⟩ := checkVariableName_cases s new
    · simp [h, h', hn, bind, Except.bind, pure, Except.pure, VariableStore.rename?]
    · simp [h, h', hn, bind, Except.bind]
  · simp [h]

lemma deleteVariable_eq_ok {name : String} {r : String × Session} :
    s.deleteVariable name = .ok r ↔ ∃ value, s.project.vars.get? name = some value ∧
      (value, s.withVariables ⟨Entries.erase name s.project.vars.entries⟩) = r := by
  unfold deleteVariable VariableStore.remove?
  cases s.project.vars.get? name <;> simp

lemma importText_eq_ok {text : String} :
    s.importText n text = (.ok s', m) ↔
      ∃ p, Project.ofText s.canvas n text = (.ok p, m) ∧ s.replaceProject p = s' := by
  unfold importText
  rcases Project.ofText s.canvas n text with ⟨_ | p, k⟩ <;> simp [and_comm]

/-! ### All actions -/

lemma quiet_eq_ok {r : Except SessionError Session} :
    quiet r = .ok (o, s') ↔ r = .ok s' ∧ o = .nothing := by
  cases r <;> simp [quiet, Except.map, eq_comm, and_comm]

lemma telling_eq_ok {r : Except SessionError (String × Session)} :
    telling r = .ok (o, s') ↔ ∃ text, r = .ok (text, s') ∧ o = .text text := by
  rcases r with _ | ⟨text, s'⟩ <;> simp [telling, Except.map, eq_comm, and_comm]

/-- What a step says is what the action does. -/
lemma Step.perform (hs : s.Consistent) (h : Step s n a o s' m) :
    s.perform n a = (.ok (o, s'), m) := by
  cases h with
  | addElement kind p => rfl
  | removeElement h =>
    simp [Session.perform, removeElement_eq_ok.mpr ⟨_, h, rfl⟩, Except.map]
  | edit edit h => simp [Session.perform, edit_eq_ok.mpr ⟨_, h, rfl⟩, quiet, Except.map]
  | updateGesture p h =>
    simp [Session.perform, Session.updateGesture, edit_eq_ok.mpr ⟨_, h, rfl⟩, quiet, Except.map]
  | switchTo h => simp [Session.perform, (switchTo_eq_ok hs).mpr ⟨h, rfl⟩, quiet, Except.map]
  | addScene hn h => simp [Session.perform, (addScene_eq_ok hs).mpr ⟨_, hn, h, rfl⟩]
  | renameScene h₁ h₂ =>
    simp [Session.perform, (renameScene_eq_ok hs).mpr ⟨⟨h₁, h₂⟩, rfl⟩, quiet, Except.map]
  | duplicateScene h₁ h₂ =>
    simp [Session.perform, (duplicateScene_eq_ok hs).mpr ⟨⟨h₁, h₂⟩, rfl⟩]
  | deleteScene h hn =>
    simp [Session.perform, (deleteScene_eq_ok hs).mpr ⟨_, h, hn, rfl⟩, telling, Except.map]
  | snapshot => simp [Session.perform, snapshot_eq hs, quiet, Except.map]
  | addVariable h => simp [Session.perform, addVariable_eq_ok.mpr ⟨h, rfl⟩, quiet, Except.map]
  | editVariable value h =>
    simp [Session.perform, editVariable_eq_ok.mpr ⟨h, rfl⟩, quiet, Except.map]
  | renameVariable h₁ h₂ =>
    simp [Session.perform, renameVariable_eq_ok.mpr ⟨⟨h₁, h₂⟩, rfl⟩, quiet, Except.map]
  | deleteVariable h =>
    simp [Session.perform, deleteVariable_eq_ok.mpr ⟨_, h, rfl⟩, telling, Except.map]
  | setMetadata title author description => rfl
  | setBackground background => rfl
  | setFontSizes sizes => rfl
  | setCanvas canvas => rfl
  | reset => rfl
  | exportText => simp [Session.perform, Session.exportText, snapshot_eq hs, telling, Except.map]
  | importText h =>
    have := importText_eq_ok.mpr ⟨_, h, rfl⟩
    simp [Session.perform, this, quiet, Except.map]

/-- An action that is performed goes on by a step. -/
lemma step_of_perform (hs : s.Consistent) (h : s.perform n a = (.ok (o, s'), m)) :
    Step s n a o s' m := by
  cases a with
  | addElement kind p =>
    simp only [perform, Prod.mk.injEq, Except.ok.injEq] at h
    obtain ⟨⟨rfl, rfl⟩, rfl⟩ := h
    exact .addElement kind p
  | removeElement id =>
    simp only [perform, Prod.mk.injEq] at h
    obtain ⟨h, rfl⟩ := h
    cases hr : s.removeElement id with
    | error e => simp [hr, Except.map] at h
    | ok r =>
      obtain ⟨e, he, rfl⟩ := removeElement_eq_ok.mp hr
      simp only [hr, Except.map, Except.ok.injEq, Prod.mk.injEq] at h
      obtain ⟨rfl, rfl⟩ := h
      exact .removeElement he
  | edit id edit =>
    simp only [perform, Prod.mk.injEq, quiet_eq_ok, edit_eq_ok] at h
    obtain ⟨⟨⟨e, he, rfl⟩, rfl⟩, rfl⟩ := h
    exact .edit edit he
  | updateGesture g p =>
    simp only [perform, updateGesture, Prod.mk.injEq, quiet_eq_ok, edit_eq_ok] at h
    obtain ⟨⟨⟨e, he, rfl⟩, rfl⟩, rfl⟩ := h
    exact .updateGesture p he
  | switchTo name =>
    simp only [perform, Prod.mk.injEq, quiet_eq_ok, switchTo_eq_ok hs] at h
    obtain ⟨⟨⟨hn, rfl⟩, rfl⟩, rfl⟩ := h
    exact .switchTo hn
  | addScene =>
    cases hr : s.addScene n with
    | error e => simp [perform, hr] at h
    | ok r =>
      obtain ⟨name, hn, hf, rfl⟩ := (addScene_eq_ok hs).mp hr
      simp only [perform, hr, Prod.mk.injEq, Except.ok.injEq] at h
      obtain ⟨⟨rfl, rfl⟩, rfl⟩ := h
      exact .addScene hn hf
  | renameScene name =>
    simp only [perform, Prod.mk.injEq, quiet_eq_ok, renameScene_eq_ok hs] at h
    obtain ⟨⟨⟨hn, rfl⟩, rfl⟩, rfl⟩ := h
    exact .renameScene hn.1 hn.2
  | duplicateScene name =>
    cases hr : s.duplicateScene n name with
    | error e => simp [perform, hr] at h
    | ok r =>
      obtain ⟨hn, rfl⟩ := (duplicateScene_eq_ok hs).mp hr
      simp only [perform, hr, Prod.mk.injEq, Except.ok.injEq] at h
      obtain ⟨⟨rfl, rfl⟩, rfl⟩ := h
      exact .duplicateScene hn.1 hn.2
  | deleteScene =>
    simp only [perform, Prod.mk.injEq, telling_eq_ok, deleteScene_eq_ok hs] at h
    obtain ⟨⟨_, ⟨name, hlt, hn, rfl, rfl⟩, rfl⟩, rfl⟩ := h
    exact .deleteScene hlt hn
  | snapshot =>
    simp only [perform, Prod.mk.injEq, quiet_eq_ok, snapshot_eq hs, Except.ok.injEq] at h
    obtain ⟨⟨rfl, rfl⟩, rfl⟩ := h
    exact .snapshot
  | addVariable name =>
    simp only [perform, Prod.mk.injEq, quiet_eq_ok, addVariable_eq_ok] at h
    obtain ⟨⟨⟨hn, rfl⟩, rfl⟩, rfl⟩ := h
    exact .addVariable hn
  | editVariable name value =>
    simp only [perform, Prod.mk.injEq, quiet_eq_ok, editVariable_eq_ok] at h
    obtain ⟨⟨⟨hn, rfl⟩, rfl⟩, rfl⟩ := h
    exact .editVariable value hn
  | renameVariable old new =>
    simp only [perform, Prod.mk.injEq, quiet_eq_ok, renameVariable_eq_ok] at h
    obtain ⟨⟨⟨hn, rfl⟩, rfl⟩, rfl⟩ := h
    exact .renameVariable hn.1 hn.2
  | deleteVariable name =>
    simp only [perform, Prod.mk.injEq, telling_eq_ok, deleteVariable_eq_ok] at h
    obtain ⟨⟨_, ⟨value, hv, rfl, rfl⟩, rfl⟩, rfl⟩ := h
    exact .deleteVariable hv
  | setMetadata title author description =>
    simp only [perform, Prod.mk.injEq, quiet_eq_ok, Except.ok.injEq] at h
    obtain ⟨⟨rfl, rfl⟩, rfl⟩ := h
    exact .setMetadata title author description
  | setBackground background =>
    simp only [perform, Prod.mk.injEq, quiet_eq_ok, Except.ok.injEq] at h
    obtain ⟨⟨rfl, rfl⟩, rfl⟩ := h
    exact .setBackground background
  | setFontSizes sizes =>
    simp only [perform, Prod.mk.injEq, quiet_eq_ok, Except.ok.injEq] at h
    obtain ⟨⟨rfl, rfl⟩, rfl⟩ := h
    exact .setFontSizes sizes
  | setCanvas canvas =>
    simp only [perform, Prod.mk.injEq, quiet_eq_ok, Except.ok.injEq] at h
    obtain ⟨⟨rfl, rfl⟩, rfl⟩ := h
    exact .setCanvas canvas
  | reset =>
    simp only [perform, Prod.mk.injEq, quiet_eq_ok, Except.ok.injEq] at h
    obtain ⟨⟨rfl, rfl⟩, rfl⟩ := h
    exact .reset
  | exportText =>
    simp only [perform, exportText, Prod.mk.injEq, telling_eq_ok, snapshot_eq hs,
      Except.ok.injEq] at h
    obtain ⟨⟨_, ⟨rfl, rfl⟩, rfl⟩, rfl⟩ := h
    exact .exportText
  | importText text =>
    simp only [perform, Prod.mk.injEq, quiet_eq_ok] at h
    obtain ⟨⟨hr, rfl⟩, rfl⟩ := h
    obtain ⟨p, hp, rfl⟩ := importText_eq_ok.mp (Prod.ext hr rfl)
    exact .importText hp

/-- An action is performed exactly where the session can go on by a step. -/
theorem perform_eq_ok (hs : s.Consistent) :
    s.perform n a = (.ok (o, s'), m) ↔ Step s n a o s' m :=
  ⟨step_of_perform hs, Step.perform hs⟩

end Session

end Storyboard
