import Storyboard.Proofs.Session.Step
import Storyboard.Session.InPlace

/-!
# Actions in place and as a whole

An action that is carried out change by change ends as the same action that is performed or
refused as a whole: no error comes after a change of the session.
-/

namespace Storyboard

open EStateM

namespace InPlace

variable {d : Desk}

/-! ### Single changes -/

@[simp] lemma run_session : session.run d = .ok d.session d := rfl

@[simp] lemma run_change (f : Session → Session) :
    (change f).run d = .ok () { d with session := f d.session } := rfl

@[simp] lemma run_take (count : Nat) :
    (take count).run d = .ok d.next { d with next := d.next + count } := rfl

@[simp] lemma run_require_ok {α : Type} (x : α) : (require (.ok x)).run d = .ok x d := rfl

@[simp] lemma run_require_error {α : Type} (e : SessionError) :
    (require (.error e : Except SessionError α)).run d = .error e d := rfl

@[simp] lemma run_ensure_true (e : SessionError) : (ensure true e).run d = .ok () d := rfl

@[simp] lemma run_ensure_false (e : SessionError) : (ensure false e).run d = .error e d := rfl

@[simp] lemma run_tryScenes (f : SceneTable → Option SceneTable) :
    (tryScenes f).run d = .ok (f d.session.project.scenes).isSome { d with
      session := d.session.withScenes
        ((f d.session.project.scenes).getD d.session.project.scenes) } := by
  simp only [tryScenes, run_bind, run_session]
  cases f d.session.project.scenes <;> rfl

@[simp] lemma run_tryVariables (f : VariableStore → Option VariableStore) :
    (tryVariables f).run d = .ok (f d.session.project.vars).isSome { d with
      session := d.session.withVariables
        ((f d.session.project.vars).getD d.session.project.vars) } := by
  simp only [tryVariables, run_bind, run_session]
  cases f d.session.project.vars <;> rfl

@[simp] lemma run_snapshot :
    snapshot.run d = .ok () { d with session := d.session.snapshot } := by
  simp only [snapshot, run_bind, run_session, run_tryScenes]
  rfl

@[simp] lemma run_addElement (kind : Kind) (p : Position) :
    (addElement kind p).run d = .ok (d.session.newElement d.next kind p).id
      { session := d.session.addElement d.next kind p, next := d.next + 1 } := rfl

/-! ### Whole actions -/

lemma names_snapshot (s : Session) : s.snapshot.project.scenes.names = s.project.scenes.names := by
  unfold Session.snapshot SceneTable.store?
  split <;> simp

/-- How an action ends that starts from a session and is performed or refused as a whole. -/
def settled (s : Session) : ActionResult × Nat → Result SessionError Desk Outcome
  | (.ok (o, s'), m) => .ok o ⟨s', m⟩
  | (.error e, m) => .error e ⟨s, m⟩

end InPlace

open InPlace

/-- An action ends in place as it ends as a whole. -/
theorem Action.run_carryOut (a : Action) (s : Session) (n : Nat) :
    a.carryOut.run ⟨s, n⟩ = settled s (s.perform n a) := by
  cases a with
  | addElement kind p => rfl
  | removeElement id =>
    simp only [carryOut, InPlace.removeElement, run_bind, run_session, Session.perform,
      Session.removeElement]
    cases s.element id <;> rfl
  | edit id e =>
    simp only [carryOut, InPlace.edit, run_bind, run_session, Session.perform, Session.edit]
    cases s.element id <;> rfl
  | updateGesture g p =>
    simp only [carryOut, InPlace.edit, run_bind, run_session, Session.perform,
      Session.updateGesture, Session.edit]
    cases s.element g.element <;> rfl
  | switchTo name =>
    simp only [carryOut, InPlace.switchTo, run_bind, run_session, Session.perform,
      Session.switchTo]
    cases s.project.scenes.contains name with
    | false => rfl
    | true =>
      simp only [run_ensure_true, run_snapshot]
      rfl
  | addScene =>
    simp only [carryOut, InPlace.addScene, run_bind, run_session, Session.perform,
      Session.addScene]
    by_cases h : s.project.scenes.nextName ∈ s.project.scenes.names
    · have hinsert := SceneTable.insert?_of_mem (names_snapshot s ▸ h) []
      simp only [SceneTable.contains_iff.mpr h, Bool.not_true, run_ensure_false, hinsert]
      rfl
    · have hinsert :=
        SceneTable.insert?_of_notMem SceneTable.nextName_ne (names_snapshot s ▸ h) []
      have hfree := Bool.eq_false_iff.mpr (mt SceneTable.contains_iff.mp h)
      simp only [hfree, Bool.not_false, run_ensure_true, run_snapshot, run_tryScenes, hinsert]
      rfl
  | renameScene name =>
    simp only [carryOut, InPlace.renameScene, run_bind, run_session, Session.perform,
      Session.renameScene]
    cases s.checkSceneName name with
    | error e => rfl
    | ok =>
      simp only [run_require_ok, run_snapshot, run_change, run_tryScenes]
      rfl
  | duplicateScene name =>
    simp only [carryOut, InPlace.duplicateScene, run_bind, run_session, Session.perform,
      Session.duplicateScene]
    cases s.checkSceneName name with
    | error e => rfl
    | ok =>
      simp only [run_require_ok, run_snapshot, run_take, run_tryScenes]
      rfl
  | deleteScene =>
    simp only [carryOut, InPlace.deleteScene, run_bind, run_session, Session.perform,
      Session.deleteScene]
    by_cases h : s.project.scenes.size ≤ 1
    · simp only [decide_eq_false (Nat.not_lt.mpr h), if_pos h, run_ensure_false]
      rfl
    · simp only [decide_eq_true (Nat.lt_of_not_le h), if_neg h, run_ensure_true]
      cases s.project.scenes.remove? s.current <;> rfl
  | snapshot => 
    simp only [carryOut, run_bind, run_snapshot]
    rfl
  | addVariable name =>
    simp only [carryOut, InPlace.addVariable, run_bind, run_session, Session.perform,
      Session.addVariable]
    cases s.checkVariableName name with
    | error e => rfl
    | ok =>
      simp only [run_require_ok, run_tryVariables]
      rfl
  | editVariable name value =>
    simp only [carryOut, InPlace.editVariable, run_bind, run_tryVariables, Session.perform,
      Session.editVariable]
    cases s.project.vars.set? name value <;> rfl
  | renameVariable old new =>
    simp only [carryOut, InPlace.renameVariable, run_bind, run_session, Session.perform,
      Session.renameVariable]
    cases s.project.vars.contains old with
    | false => rfl
    | true =>
      simp only [run_ensure_true, if_true]
      cases s.checkVariableName new with
      | error e => rfl
      | ok =>
        simp only [run_require_ok, run_tryVariables]
        rfl
  | deleteVariable name =>
    simp only [carryOut, InPlace.deleteVariable, run_bind, run_session, Session.perform,
      Session.deleteVariable]
    cases s.project.vars.remove? name <;> rfl
  | setMetadata title author description => rfl
  | setBackground background => rfl
  | setFontSizes sizes => rfl
  | setCanvas canvas => rfl
  | reset => rfl
  | exportText =>
    simp only [carryOut, InPlace.exportText, run_bind, run_snapshot, run_session]
    rfl
  | importText text =>
    simp only [carryOut, InPlace.importText, run_bind, Session.perform, run_get]
    simp only [Session.importText]
    rcases h : Project.ofText s.canvas n text with ⟨_ | p, m⟩ <;> rfl

variable {a : Action} {s : Session} {n : Nat}

lemma Action.run_carryOut_eq_error {e : SessionError} {d : Desk} :
    a.carryOut.run ⟨s, n⟩ = .error e d ↔
      (s.perform n a).1 = .error e ∧ d = ⟨s, (s.perform n a).2⟩ := by
  rw [Action.run_carryOut]
  rcases s.perform n a with ⟨_ | ⟨o, s'⟩, m⟩ <;> simp [settled, eq_comm]

lemma Action.run_carryOut_eq_ok {o : Outcome} {d : Desk} :
    a.carryOut.run ⟨s, n⟩ = .ok o d ↔ s.perform n a = (.ok (o, d.session), d.next) := by
  rw [Action.run_carryOut]
  rcases d with ⟨s', k⟩
  rcases s.perform n a with ⟨_ | ⟨o, s'⟩, m⟩ <;> simp [settled, and_assoc]

end Storyboard
