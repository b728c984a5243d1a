import Storyboard.Proofs.Document.Project
import Storyboard.Proofs.Session.InPlace
import Storyboard.Proofs.Session.Reachable

/-!
# Refused actions

An action is refused for one of the reasons listed here and for no other. Whatever a refused action
has looked at or changed on the way, the session is as it was, with its lagging copy of the active
scene; and an action that is not refused takes its whole effect, as every inner operation succeeds
after what was checked before.
-/

namespace Storyboard

namespace Session

variable {s s' : Session} {n m : Nat} {a : Action} {o : Outcome} {e : SessionError}

/-! ### Reasons -/

/-- Why a scene cannot get a name. -/
inductive SceneNameFault (s : Session) : String → SessionError → Prop
  | empty : SceneNameFault s "" .emptyName
  | taken {name : String} (h : name ≠ "") (hn : name ∈ s.sceneNames) :
      SceneNameFault s name (.duplicateScene name)

/-- Why a variable cannot get a name. -/
inductive VariableNameFault (s : Session) : String → SessionError → Prop
  | empty : VariableNameFault s "" .emptyName
  | reserved {name : String} (h : isReserved name = true) :
      VariableNameFault s name (.reservedVariable name)
  | taken {name : String} (h : name ≠ "") (hr : isReserved name = false)
      (hn : name ∈ s.project.vars.names) : VariableNameFault s name (.duplicateVariable name)

/-- No live element has the name. -/
def Unknown (s : Session) (id : ElementId) : Prop :=
  ∀ e ∈ s.live, e.id ≠ id

/-- Why an action is refused. -/
inductive Refused (s : Session) : Action → SessionError → Prop
  | removeElement {id : ElementId} (h : s.Unknown id) :
      Refused s (.removeElement id) (.unknownElement id)
  | edit {id : ElementId} (edit : Edit) (h : s.Unknown id) :
      Refused s (.edit id edit) (.unknownElement id)
  | updateGesture {g : Gesture} (p : Position) (h : s.Unknown g.element) :
      Refused s (.updateGesture g p) (.unknownElement g.element)
  | switchTo {name : String} (h : name ∉ s.sceneNames) :
      Refused s (.switchTo name) (.unknownScene name)
  | addScene (h : s.project.scenes.nextName ∈ s.sceneNames) :
      Refused s .addScene (.duplicateScene s.project.scenes.nextName)
  | renameScene {name : String} {e : SessionError} (h : s.SceneNameFault name e) :
      Refused s (.renameScene name) e
  | duplicateScene {name : String} {e : SessionError} (h : s.SceneNameFault name e) :
      Refused s (.duplicateScene name) e
  | deleteScene (h : s.sceneNames = [s.current]) : Refused s .deleteScene .lastScene
  | addVariable {name : String} {e : SessionError} (h : s.VariableNameFault name e) :
      Refused s (.addVariable name) e
  | editVariable {name : String} (value : String) (h : name ∉ s.project.vars.names) :
      Refused s (.editVariable name value) (.unknownVariable name)
  | renameUnknown {old : String} (new : String) (h : old ∉ s.project.vars.names) :
      Refused s (.renameVariable old new) (.unknownVariable old)
  | renameVariable {old new : String} {e : SessionError} (h : old ∈ s.project.vars.names)
      (he : s.VariableNameFault new e) : Refused s (.renameVariable old new) e
  | deleteVariable {name : String} (h : name ∉ s.project.vars.names) :
      Refused s (.deleteVariable name) (.unknownVariable name)
  | importText {text : String} {e : DocumentError} (h : Project.Unreadable text e) :
      Refused s (.importText text) (.document e)

/-! ### One lemma for each operation that can be refused -/

lemma element_eq_error {id : ElementId} :
    s.element id = .error e ↔ s.Unknown id ∧ e = .unknownElement id := by
  unfold element element? Unknown
  cases h : s.live.find? (·.id = id) with
  | none =>
    have hnone : ∀ x ∈ s.live, x.id ≠ id := by simpa using h
    simp only [Except.error.injEq, eq_comm (a := e)]
    exact (and_iff_right hnone).symm
  | some x =>
    obtain ⟨hx, hmem⟩ : x.id = id ∧ x ∈ s.live :=
      ⟨by simpa using List.find?_some h, List.mem_of_find?_eq_some h⟩
    simp only [reduceCtorEq, false_iff]
    exact fun hu => hu.1 x hmem hx

lemma removeElement_eq_error {id : ElementId} :
    s.removeElement id = .error e ↔ s.Unknown id ∧ e = .unknownElement id := by
  rw [← element_eq_error, removeElement]
  cases s.element id <;> simp [bind, Except.bind, pure, Except.pure]

lemma edit_eq_error {id : ElementId} {edit : Edit} :
    s.edit id edit = .error e ↔ s.Unknown id ∧ e = .unknownElement id := by
  rw [← element_eq_error, Session.edit]
  cases s.element id <;> simp [bind, Except.bind, pure, Except.pure]

lemma beginGesture_eq_error {id : ElementId} {kind : GestureKind} {p : Position} :
    s.beginGesture id kind p = .error e ↔ s.Unknown id ∧ e = .unknownElement id := by
  rw [← element_eq_error, beginGesture]
  cases s.element id <;> simp [bind, Except.bind, pure, Except.pure]

lemma switchTo_eq_error {name : String} :
    s.switchTo name = .error e ↔ name ∉ s.sceneNames ∧ e = .unknownScene name := by
  unfold switchTo sceneNames
  by_cases h : name ∈ s.project.scenes.names <;> simp [h, @eq_comm _ e]

lemma checkSceneName_eq_error {name : String} :
    s.checkSceneName name = .error e ↔ s.SceneNameFault name e := by
  unfold checkSceneName
  constructor
  · intro h
    split at h
    · rename_i hempty
      subst hempty
      cases h
      exact .empty
    · rename_i hne
      split at h
      · rename_i hmem
        cases h
        exact .taken hne (SceneTable.contains_iff.mp hmem)
      · cases h
  · rintro (_ | ⟨hne, hn⟩)
    · rfl
    · rw [if_neg hne, if_pos (SceneTable.contains_iff.mpr hn)]

lemma addScene_eq_error :
    s.addScene n = .error e ↔ s.project.scenes.nextName ∈ s.sceneNames
      ∧ e = .duplicateScene s.project.scenes.nextName := by
  unfold addScene sceneNames
  have hnames := InPlace.names_snapshot s
  by_cases h : s.project.scenes.nextName ∈ s.project.scenes.names
  · simp [SceneTable.insert?_of_mem (hnames ▸ h) [], h, eq_comm]
  · simp [SceneTable.insert?_of_notMem SceneTable.nextName_ne (hnames ▸ h) [], h]

lemma renameScene_eq_error {name : String} :
    s.renameScene name = .error e ↔ s.SceneNameFault name e := by
  rw [← checkSceneName_eq_error, renameScene]
  cases s.checkSceneName name <;> simp [bind, Except.bind, pure, Except.pure]

lemma duplicateScene_eq_error {name : String} :
    s.duplicateScene n name = .error e ↔ s.SceneNameFault name e := by
  rw [← checkSceneName_eq_error, duplicateScene]
  cases s.checkSceneName name <;> simp [bind, Except.bind, pure, Except.pure]

/-- The active scene is found, so only the last scene is not deleted. -/
lemma deleteScene_eq_error (hs : s.Consistent) :
    s.deleteScene = .error e ↔ s.sceneNames = [s.current] ∧ e = .lastScene := by
  have hlast : s.project.scenes.size ≤ 1 ↔ s.sceneNames = [s.current] := by
    have hmem : s.current ∈ s.sceneNames := hs.current_mem
    have hlength : s.sceneNames.length = s.project.scenes.size := List.length_map _
    constructor
    · intro hle
      obtain ⟨name, hname⟩ := List.length_eq_one_iff.mp
        (Nat.le_antisymm (hlength ▸ hle) (List.length_pos_of_mem hmem))
      rw [hname, List.mem_singleton] at hmem
      rw [hname, hmem]
    · intro hname
      rw [← hlength, hname, List.length_singleton]
  unfold deleteScene
  by_cases h : s.project.scenes.size ≤ 1
  · simp [h, hlast.mp h, eq_comm]
  · obtain ⟨i, x, hr, -⟩ := SceneTable.remove?_of_mem hs.valid.2 hs.current_mem (by omega)
    simp [h, hr, mt hlast.mpr h]

lemma checkVariableName_eq_error {name : String} :
    s.checkVariableName name = .error e ↔ s.VariableNameFault name e := by
  unfold checkVariableName
  constructor
  · intro h
    split at h
    · rename_i hempty
      subst hempty
      cases h
      exact .empty
    · rename_i hne
      split at h
      · rename_i hr
        cases h
        exact .reserved hr
      · rename_i hr
        split at h
        · rename_i hmem
          cases h
          exact .taken hne (Bool.eq_false_iff.mpr hr) (by simpa [VariableStore.contains] using hmem)
        · cases h
  · rintro (_ | hr | ⟨hne, hr, hn⟩)
    · rfl
    · have hne : name ≠ "" := by
        rintro rfl
        exact absurd hr (by decide)
      rw [if_neg hne, if_pos hr]
    · simp [hne, hr, VariableStore.contains, hn]

lemma addVariable_eq_error {name : String} :
    s.addVariable name = .error e ↔ s.VariableNameFault name e := by
  rw [← checkVariableName_eq_error, addVariable]
  cases s.checkVariableName name <;> simp [bind, Except.bind, pure, Except.pure]

lemma editVariable_eq_error {name value : String} :
    s.editVariable name value = .error e ↔
      name ∉ s.project.vars.names ∧ e = .unknownVariable name := by
  unfold editVariable VariableStore.set?
  by_cases h : name ∈ s.project.vars.names <;> simp [VariableStore.contains, h, eq_comm]

lemma renameVariable_eq_error {old new : String} :
    s.renameVariable old new = .error e ↔
      (old ∉ s.project.vars.names ∧ e = .unknownVariable old)
        ∨ (old ∈ s.project.vars.names ∧ s.VariableNameFault new e) := by
  rw [← checkVariableName_eq_error, renameVariable]
  by_cases h : old ∈ s.project.vars.names
  · cases s.checkVariableName new <;>
      simp [VariableStore.contains, h, bind, Except.bind, pure, Except.pure]
  · simp [VariableStore.contains, h, eq_comm]

lemma deleteVariable_eq_error {name : String} :
    s.deleteVariable name = .error e ↔
      name ∉ s.project.vars.names ∧ e = .unknownVariable name := by
  have hnone : s.project.vars.get? name = none ↔ name ∉ s.project.vars.names :=
    Entries.get?_eq_none_iff
  unfold deleteVariable VariableStore.remove?
  rw [← hnone]
  cases s.project.vars.get? name <;> simp [eq_comm]

lemma importText_eq_error {text : String} :
    (s.importText n text).1 = .error e ↔ ∃ b, Project.Unreadable text b ∧ e = .document b := by
  simp only [← Project.ofText_eq_error s.canvas n, importText]
  rcases Project.ofText s.canvas n text with ⟨_ | p, m⟩ <;> simp [eq_comm]

lemma quiet_eq_error {r : Except SessionError Session} : quiet r = .error e ↔ r = .error e := by
  cases r <;> simp [quiet, Except.map]

lemma telling_eq_error {r : Except SessionError (String × Session)} :
    telling r = .error e ↔ r = .error e := by
  cases r <;> simp [telling, Except.map]

/-! ### All actions -/

/-- An action is refused exactly for the reasons there are. -/
lemma perform_eq_error (hs : s.Consistent) : (s.perform n a).1 = .error e ↔ s.Refused a e := by
  cases a with
  | removeElement id =>
    have hmap : (s.perform n (.removeElement id)).1 = .error e ↔ s.removeElement id = .error e := by
      simp only [perform]
      cases s.removeElement id <;> simp [Except.map]
    rw [hmap, removeElement_eq_error]
    constructor
    · rintro ⟨h, rfl⟩
      exact .removeElement h
    · intro h
      cases h with
      | removeElement h => exact ⟨h, rfl⟩
  | edit id edit =>
    rw [perform, quiet_eq_error, edit_eq_error]
    constructor
    · rintro ⟨h, rfl⟩
      exact .edit edit h
    · intro h
      cases h with
      | edit _ h => exact ⟨h, rfl⟩
  | updateGesture g p =>
    rw [perform, quiet_eq_error, updateGesture, edit_eq_error]
    constructor
    · rintro ⟨h, rfl⟩
      exact .updateGesture p h
    · intro h
      cases h with
      | updateGesture _ h => exact ⟨h, rfl⟩
  | switchTo name =>
    rw [perform, quiet_eq_error, switchTo_eq_error]
    constructor
    · rintro ⟨h, rfl⟩
      exact .switchTo h
    · intro h
      cases h with
      | switchTo h => exact ⟨h, rfl⟩
  | addScene =>
    have hmap : (s.perform n .addScene).1 = .error e ↔ s.addScene n = .error e := by
      simp only [perform]
      cases s.addScene n <;> simp
    rw [hmap, addScene_eq_error]
    constructor
    · rintro ⟨h, rfl⟩
      exact .addScene h
    · intro h
      cases h with
      | addScene h => exact ⟨h, rfl⟩
  | renameScene name =>
    rw [perform, quiet_eq_error, renameScene_eq_error]
    constructor
    · exact .renameScene
    · intro h
      cases h with
      | renameScene h => exact h
  | duplicateScene name =>
    have hmap : (s.perform n (.duplicateScene name)).1 = .error e
        ↔ s.duplicateScene n name = .error e := by
      simp only [perform]
      cases s.duplicateScene n name <;> simp
    rw [hmap, duplicateScene_eq_error]
    constructor
    · exact .duplicateScene
    · intro h
      cases h with
      | duplicateScene h => exact h
  | deleteScene =>
    rw [perform, telling_eq_error, deleteScene_eq_error hs]
    constructor
    · rintro ⟨h, rfl⟩
      exact .deleteScene h
    · intro h
      cases h with
      | deleteScene h => exact ⟨h, rfl⟩
  | addVariable name =>
    rw [perform, quiet_eq_error, addVariable_eq_error]
    constructor
    · exact .addVariable
    · intro h
      cases h with
      | addVariable h => exact h
  | editVariable name value =>
    rw [perform, quiet_eq_error, editVariable_eq_error]
    constructor
    · rintro ⟨h, rfl⟩
      exact .editVariable value h
    · intro h
      cases h with
      | editVariable _ h => exact ⟨h, rfl⟩
  | renameVariable old new =>
    rw [perform, quiet_eq_error, renameVariable_eq_error]
    constructor
    · rintro (⟨h, rfl⟩ | ⟨h, he⟩)
      · exact .renameUnknown new h
      · exact .renameVariable h he
    · intro h
      cases h with
      | renameUnknown _ h => exact .inl ⟨h, rfl⟩
      | renameVariable h he => exact .inr ⟨h, he⟩
  | deleteVariable name =>
    rw [perform, telling_eq_error, deleteVariable_eq_error]
    constructor
    · rintro ⟨h, rfl⟩
      exact .deleteVariable h
    · intro h
      cases h with
      | deleteVariable h => exact ⟨h, rfl⟩
  | importText text =>
    rw [perform, quiet_eq_error, importText_eq_error]
    constructor
    · rintro ⟨b, h, rfl⟩
      exact .importText h
    · intro h
      cases h with
      | importText h => exact ⟨_, h, rfl⟩
  | addElement | snapshot | setMetadata | setBackground | setFontSizes | setCanvas | reset
  | exportText =>
    constructor <;> intro h <;> cases h

/-- An action that is refused leaves the whole session as it was, also when it is carried out change
by change; it is refused exactly for the reasons there are, and otherwise takes its whole effect.
Only the last scene is not deleted, and saving always gives a text. -/
theorem refused_unchanged {admits : Action → Prop} (h : Reachable admits s n) :
    (∀ a e, (s.perform n a).1 = .error e ↔ s.Refused a e) ∧
      (∀ a e, (∃ d, a.carryOut.run ⟨s, n⟩ = .error e d) ↔ s.Refused a e) ∧
      (∀ (a : Action) e d, a.carryOut.run ⟨s, n⟩ = .error e d → d.session = s) ∧
      (∀ a, (∀ e, ¬ s.Refused a e) →
        ∃ o d, a.carryOut.run ⟨s, n⟩ = .ok o d ∧ Step s n a o d.session d.next) ∧
      (∀ id kind p e, s.beginGesture id kind p = .error e ↔
        s.Unknown id ∧ e = .unknownElement id) ∧
      (∀ e d, Action.deleteScene.carryOut.run ⟨s, n⟩ = .error e d → e = .lastScene) ∧
      ∃ text d, Action.exportText.carryOut.run ⟨s, n⟩ = .ok (.text text) d := by
  have hs := h.consistent
  refine ⟨fun a e => perform_eq_error hs, fun a e => ?_, fun a e d hd => ?_, fun a ha => ?_,
    fun id kind p e => beginGesture_eq_error, fun e d hd => ?_, ?_⟩
  · simp only [Action.run_carryOut_eq_error, exists_and_left, exists_eq, and_true]
    exact perform_eq_error hs
  · rw [(Action.run_carryOut_eq_error.mp hd).2]
  · rcases hr : s.perform n a with ⟨e | ⟨o, s'⟩, m⟩
    · exact absurd ((perform_eq_error hs).mp (congrArg Prod.fst hr)) (ha e)
    · exact ⟨o, ⟨s', m⟩, Action.run_carryOut_eq_ok.mpr hr, step_of_perform hs hr⟩
  · cases (perform_eq_error hs).mp (Action.run_carryOut_eq_error.mp hd).1
    rfl
  · exact ⟨s.snapshot.project.toText, ⟨s.snapshot, n⟩, Action.run_carryOut_eq_ok.mpr rfl⟩

/-- A name that is taken is refused while the stored copy of the active scene lags behind. -/
theorem refused_unchanged_taken_name :
    let actions : List Action :=
      [.addElement .label ⟨5, 5⟩, .addScene, .addElement .button ⟨10, 20⟩,
        .edit (.numbered "button" 2) (.text "late")]
    let s := ((Session.new {} 0).1.run 0 actions).1
    Reachable (fun _ => True) s 3 ∧ s.snapshot ≠ s ∧
      s.Refused (.renameScene "Scene 1") (.duplicateScene "Scene 1") ∧
      ∃ d, (Action.renameScene "Scene 1").carryOut.run ⟨s, 3⟩
          = .error (.duplicateScene "Scene 1") d ∧ d.session = s := by
  intro actions s
  have hs : Reachable (fun _ => True) s 3 :=
    (Reachable.new {} 0).run (fun _ _ => trivial : ∀ a ∈ actions, True)
  have hrefused : s.Refused (.renameScene "Scene 1") (.duplicateScene "Scene 1") :=
    .renameScene (.taken (by decide) (by decide))
  obtain ⟨-, herror, hsame, -⟩ := refused_unchanged hs
  obtain ⟨d, hd⟩ := (herror _ _).mpr hrefused
  exact ⟨hs, by decide +kernel, hrefused, d, hd, hsame _ _ d hd⟩

end Session

end Storyboard
