import Storyboard.Proofs.Editor.Gesture
import Storyboard.Proofs.Editor.Renaming

/-!
# Calls that fail

A call fails when the session refuses its action or when there is nothing that it could do. The
document, the active scene, the live elements and the canvas stay as they were. Some calls have
given up the gesture in progress by then, and a document that is refused has used up numbers; apart
from these two a page cannot tell that the call was made.
-/

namespace Storyboard

open ElementId

namespace Session

variable {s : Session} {n : Nat} {σ : ElementId → ElementId} {admits : Action → Prop}

/-- Names that are not given to others are kept. -/
lemma rename_eq_self (hstored : ∀ id ∈ s.project.scenes.ids, σ id = id)
    (hlive : ∀ e ∈ s.live, σ e.id = e.id) : s.rename σ = s := by
  have hscenes : s.project.scenes.rename σ = s.project.scenes.rename id :=
    SceneTable.rename_congr hstored
  have helements : s.live.map (·.rename σ) = s.live.map (·.rename id) :=
    List.map_congr_left fun e he => by rw [Element.rename, hlive e he]; rfl
  have hsame := rename_same s
  simp only [rename, Project.rename, hscenes, helements] at hsame ⊢
  exact hsame

/-- All names in a reachable session have numbers that were used up. -/
lemma Reachable.id_fixed (h : Reachable admits s n)
    (hσ : ∀ stem i, i < n → σ (numbered stem i) = numbered stem i) :
    ∀ id ∈ s.elementIds, σ id = id := by
  obtain ⟨r, hr, rfl⟩ := h.exists_history
  have hnamed := hr.named
  intro id hid
  obtain ⟨stem, i, rfl, hi⟩ := hnamed.sound id (hnamed.known id hid)
  exact hσ stem i hi

lemma Reachable.rename_eq_self (h : Reachable admits s n)
    (hσ : ∀ stem i, i < n → σ (numbered stem i) = numbered stem i) : s.rename σ = s := by
  have hfixed := h.id_fixed hσ
  obtain ⟨r, hr, -⟩ := h.exists_history
  have hperm := hr.named.paired.ids_perm h.consistent
  refine Session.rename_eq_self ?_ ?_
  · intro id hid
    exact hfixed id (hperm.mem_iff.mp hid)
  · intro e he
    exact hfixed e.id (mem_elementIds he)

end Session

namespace Editor

variable {ed : Editor} {c : Call} {a : Action} {m : Nat}

/-! ### What fails -/

/-- The call reports a failure. -/
def Call.Fails (ed : Editor) (c : Call) : Prop :=
  (ed.call c).1 = .flag false ∨ c = .addScene ∧ (ed.call c).1 = .text ""

/-- The calls that give up the gesture in progress before it turns out whether they fail. -/
def Call.hasty : Call → Bool
  | .switchScene _ | .addScene | .duplicateScene _ | .deleteScene | .importText _ => true
  | _ => false

/-- An action that fails is refused. -/
lemma refused_of_act (h : (ed.act a).1 = false) :
    ∃ e, (ed.session.perform ed.next a).1 = .error e := by
  unfold act at h
  rcases hp : ed.session.perform ed.next a with ⟨e | ⟨o, s⟩, m⟩
  · exact ⟨e, rfl⟩
  · simp [hp] at h

lemma refused_of_tryEdit {id : ElementId} {edit : Option Edit}
    (h : (ed.tryEdit id.text edit).1 = false) (ha : edit.map (.edit id) = some a) :
    ∃ e, (ed.session.perform ed.next a).1 = .error e := by
  obtain ⟨edit, rfl, rfl⟩ := Option.map_eq_some_iff.mp ha
  exact refused_of_act h

/-- A scene that is added has a name. -/
lemma refused_of_addScene (hs : ed.session.Consistent) (h : (ed.ask .addScene).1 = "") :
    ∃ e, (ed.session.perform ed.next .addScene).1 = .error e := by
  unfold ask at h
  rcases hp : ed.session.perform ed.next .addScene with ⟨e | ⟨o, s⟩, m⟩
  · exact ⟨e, rfl⟩
  · cases Session.step_of_perform hs hp with
    | addScene hn hfree =>
      simp only [hp] at h
      exact absurd (hn.symm.trans h) SceneTable.nextName_ne

/-- A call fails only when its action is refused, if it has one. -/
lemma refused_of_fails (hs : ed.session.Consistent) (h : c.Fails ed)
    (ha : c.action? ed = some a) : ∃ e, (ed.session.perform ed.next a).1 = .error e := by
  rcases h with h | ⟨rfl, h⟩
  · have hreleased (h : (ed.release.act a).1 = false) :
        ∃ e, (ed.session.perform ed.next a).1 = .error e :=
      refused_of_act ((act_release_fst ed a).symm.trans h)
    cases c with
    | switchScene | duplicateScene | deleteScene | importText =>
      cases ha
      exact hreleased (Answer.flag.inj h)
    | removeElement id =>
      cases ha
      exact refused_of_act ((removeElement_fst ed id).symm.trans (Answer.flag.inj h))
    | renameScene | setCollapsedList | addVariable | editVariable | renameVariable
    | deleteVariable =>
      cases ha
      exact refused_of_act (Answer.flag.inj h)
    | setProperty | setTrigger => exact refused_of_tryEdit (Answer.flag.inj h) ha
    | pointerMove p =>
      obtain ⟨g, hg, rfl⟩ := Option.map_eq_some_iff.mp ha
      have hflag := Answer.flag.inj h
      simp only [hg] at hflag
      exact refused_of_act hflag
    | pointerDown => cases ha
    | _ => cases h
  · have hs' : ed.release.session.Consistent := hs
    have hrefused := refused_of_addScene hs' (Answer.text.inj h)
    cases ha
    exact hrefused

/-- The gesture in progress that a call leaves behind when it fails. -/
lemma gesture?_of_fails (hed : Reachable ed) (h : c.Fails ed) :
    c.gesture? ed = if c.hasty then none else ed.gesture := by
  cases c with
  | pointerDown id p resize =>
    rcases h with h | ⟨h, -⟩
    · have hflag := Answer.flag.inj h
      simp only [Call.gesture?]
      cases hbegin : ed.session.beginGesture id (if resize then .resize else .drag) p with
      | ok g => simp [hbegin] at hflag
      | error e => rfl
    · cases h
  | removeElement id =>
    obtain ⟨e, he⟩ := refused_of_fails hed.session.consistent h rfl
    have hunknown : ed.session.Unknown id := by
      cases (Session.perform_eq_error hed.session.consistent).mp he with
      | removeElement hunknown => exact hunknown
    have hother : ed.gesture.any (·.element = id) = false := by
      cases hg : ed.gesture with
      | none => rfl
      | some g =>
        obtain ⟨d, hd, hid⟩ := hed.held g hg
        simpa [← hid] using hunknown d hd
    simp [Call.gesture?, Call.releases, hother, Call.hasty]
  | setCanvas | reset | pointerUp =>
    rcases h with h | ⟨h, -⟩ <;> cases h
  | _ => rfl

/-! ### After a failure -/

/-- The editor that a failure of a call leaves behind, apart from the numbers that are used up. -/
def kept (ed : Editor) (c : Call) : Editor :=
  if c.hasty then ed.release else ed

@[simp] lemma session_kept : (ed.kept c).session = ed.session := by
  unfold kept
  split <;> rfl

@[simp] lemma next_kept : (ed.kept c).next = ed.next := by
  unfold kept
  split <;> rfl

@[simp] lemma gesture_kept :
    (ed.kept c).gesture = if c.hasty then none else ed.gesture := by
  unfold kept
  split <;> rfl

/-- Nothing is lost by a call that looks before it gives up the gesture in progress, and nothing
when there is none. -/
lemma kept_eq_self (h : c.hasty = false ∨ ed.gesture = none) : ed.kept c = ed := by
  obtain ⟨session, gesture, next⟩ := ed
  rcases h with h | h
  · simp [kept, h]
  · obtain rfl : gesture = none := h
    cases hc : c.hasty <;> simp [kept, hc, release]

/-- Only a document that is refused uses up numbers. -/
lemma created_of_refused {s : Session} {e : SessionError} (h : s.Refused a e)
    (himport : ∀ text, a ≠ .importText text) : s.created a = [] := by
  cases h with
  | addScene h => exact if_pos h
  | duplicateScene h =>
    cases h with
    | empty => simp [Session.created]
    | taken h hn => exact if_pos (Or.inr hn)
  | @importText text => exact absurd rfl (himport text)
  | _ => rfl

lemma eq_importText_of_action? {text : String} (h : c.action? ed = some (.importText text)) :
    c = .importText text := by
  cases c with
  | setProperty | setTrigger | pointerMove =>
    obtain ⟨x, -, hx⟩ := Option.map_eq_some_iff.mp h
    cases hx
  | _ =>
    cases h
    try rfl

/-- What a call leaves behind when it fails. -/
lemma call_snd_of_fails (hed : Reachable ed) (h : c.Fails ed) :
    ∃ k, (ed.call c).2 = { ed.kept c with next := ed.next + k } ∧
      ((∀ text, c ≠ .importText text) → k = 0) := by
  have hs := hed.session.consistent
  rw [call_snd, gesture?_of_fails hed h, ← gesture_kept]
  cases ha : c.action? ed with
  | none => exact ⟨0, by simp [proceed], fun _ => rfl⟩
  | some a =>
    obtain ⟨e, he⟩ := refused_of_fails hs h ha
    have hsame : (ed.session.after ed.next a).1 = ed.session := by
      unfold Session.after
      rcases hp : ed.session.perform ed.next a with ⟨_ | r, m⟩
      · rfl
      · simp [hp] at he
    refine ⟨(ed.session.created a).length, ?_, fun himport => ?_⟩
    · simp only [proceed, hsame, Session.after_snd hs, session_kept]
    · have hother : ∀ text, a ≠ .importText text := by
        rintro text rfl
        exact himport text (eq_importText_of_action? ha)
      rw [created_of_refused ((Session.perform_eq_error hs).mp he) hother, List.length_nil]

lemma Reachable.kept (h : Reachable ed) (c : Call) : Reachable (ed.kept c) := by
  unfold Editor.kept
  split
  · exact h.call .pointerUp
  · exact h

/-- Names that are taken later are of no account in a reachable editor. -/
lemma Reachable.rename_eq (h : Reachable ed) {σ : ElementId → ElementId}
    (hσ : ∀ stem i, i < ed.next → σ (numbered stem i) = numbered stem i) (m : Nat) :
    ed.rename σ m = { ed with next := m } := by
  have hsession := h.session.rename_eq_self hσ
  have hgesture : ed.gesture.map (·.rename σ) = ed.gesture := by
    cases hg : ed.gesture with
    | none => rfl
    | some g =>
      obtain ⟨e, he, hid⟩ := h.held g hg
      have hfixed := h.session.id_fixed hσ e.id (Session.mem_elementIds he)
      rw [hid] at hfixed
      simp [Gesture.rename, hfixed]
  rw [rename, hsession, hgesture]

/-- A call that fails leaves the document, the active scene, the live elements and the canvas as
they were. It gives up the gesture in progress only if it is one of those that do so first, and
uses up numbers only if it is a document that is refused. Whatever is asked afterwards is answered
as if the call had not been made, apart from the gesture and from the names that are taken later. -/
theorem failed_call (hed : Reachable ed) (h : c.Fails ed) :
    (c.hasty = false ∨ ed.gesture = none → ed.kept c = ed) ∧
      ∃ k, (ed.call c).2 = { ed.kept c with next := ed.next + k } ∧
        ((∀ text, c ≠ .importText text) → k = 0) ∧
        ∃ σ : ElementId → ElementId, Function.Injective σ ∧
          (∀ stem i, i < ed.next → σ (numbered stem i) = numbered stem i) ∧
          ∀ cs, ((ed.call c).2.run (cs.map (·.rename σ))).1
            = ((ed.kept c).run cs).1.map (·.rename σ) := by
  obtain ⟨k, hcall, hk⟩ := call_snd_of_fails hed h
  obtain ⟨σ, hσ, hfixed⟩ := exists_renumbers ed.next k
  refine ⟨kept_eq_self, k, hcall, hk, σ, hσ.injective, hfixed, fun cs => ?_⟩
  have hkept := hed.kept c
  have hrenumbers : Renumbers σ (ed.kept c).next (ed.next + k) := by rwa [next_kept]
  have hrename : (ed.kept c).rename σ (ed.next + k) = { ed.kept c with next := ed.next + k } :=
    hkept.rename_eq (by rwa [next_kept]) _
  rw [hcall, ← hrename, run_rename hkept hrenumbers]

/-- A drag is given up for a document that is refused after its elements were read. -/
theorem failed_call_refused_document :
    let text := "\x7b\"scenes\":[\x7b\"name\":\"A\",\"elements\":[\x7b\"type\":\"menu\"\x7d]\x7d,"
      ++ "\x7b\"name\":\"A\",\"elements\":[\x7b\"type\":\"label\"\x7d]\x7d]\x7d"
    let calls : List Call :=
      [.createElement "button" ⟨10, 20⟩, .pointerDown (.numbered "button" 1) ⟨12, 25⟩ false]
    let ed := ((start 0).run calls).2
    ed.gesture.isSome = true ∧ Call.Fails ed (.importText text) ∧
      ∃ k, (ed.call (.importText text)).2 = { ed.release with next := 2 + k } ∧
        ∃ σ : ElementId → ElementId, Function.Injective σ ∧
          σ (.numbered "button" 1) = ⟨"button_1"⟩ ∧
          ∀ cs, ((ed.call (.importText text)).2.run (cs.map (·.rename σ))).1
            = (ed.release.run cs).1.map (·.rename σ) := by
  intro text calls ed
  have hfails : Call.Fails ed (.importText text) := .inl (by decide +kernel)
  obtain ⟨-, k, hcall, -, σ, hσ, hfixed, hrun⟩ :=
    failed_call ((Reachable.start 0).run calls) hfails
  have hnext : ed.next = 2 := by decide +kernel
  refine ⟨by decide +kernel, hfails, k, hnext ▸ hcall, σ, hσ, ?_, hrun⟩
  exact (hfixed "button" 1 (hnext ▸ by decide)).trans rfl

/-- A pointer that moves drags the button on, but not once a text was refused. -/
theorem gesture_lost_by_refused_text :
    let calls : List Call :=
      [.createElement "button" ⟨10, 20⟩, .pointerDown (.numbered "button" 1) ⟨12, 25⟩ false]
    let ed := ((start 0).run calls).2
    Call.Fails ed (.importText "\x7b\x7d") ∧
      (ed.run [.pointerMove ⟨52, 65⟩]).1 = [.flag true] ∧
      (ed.run [.importText "\x7b\x7d", .pointerMove ⟨52, 65⟩]).1 = [.flag false, .flag false] := by
  refine ⟨.inl ?_, ?_, ?_⟩ <;> decide +kernel

end Editor

end Storyboard
