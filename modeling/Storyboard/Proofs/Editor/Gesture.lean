import Storyboard.Proofs.Editor.Call
import Storyboard.Proofs.Session.Names
import Storyboard.Proofs.Session.Refusal

/-!
# Gestures in progress

The gesture in progress is kept beside the session and names an element there. It never outlives
the element: a call that takes elements off the canvas gives the gesture up first, and every other
call leaves the element of the gesture where it is.
-/

namespace Storyboard

/-- Whether an action puts the elements of another scene on the canvas. -/
def Action.turns : Action → Bool
  | .switchTo _ | .addScene | .duplicateScene _ | .deleteScene | .reset | .importText _ => true
  | _ => false

namespace Session

variable {s s' : Session} {n m : Nat} {a : Action} {o : Outcome} {e : Element}

lemma mem_of_map_id_eq {es es' : List Element} (h : es'.map (·.id) = es.map (·.id))
    (he : e ∈ es) : ∃ e' ∈ es', e'.id = e.id := by
  have hid : e.id ∈ es'.map (·.id) := h ▸ List.mem_map_of_mem he
  exact List.mem_map.mp hid

/-- An element stays on the canvas unless it is removed or the canvas shows another scene. -/
lemma Step.live_kept (h : Step s n a o s' m) (ha : a.turns = false) (he : e ∈ s.live)
    (hid : a ≠ .removeElement e.id) : ∃ e' ∈ s'.live, e'.id = e.id := by
  cases h with
  | addElement kind p => exact ⟨e, List.mem_append_left _ he, rfl⟩
  | @removeElement id d h =>
    have hne : e.id ≠ id := by
      rintro rfl
      exact hid rfl
    have hmem : e ∈ s.live.eraseP fun e => decide (e.id = id) :=
      (List.mem_eraseP_of_neg (by simpa using hne)).mpr he
    exact ⟨e, hmem, rfl⟩
  | edit edit h => exact mem_of_map_id_eq (ids_eq_of_mark (mark_editLive _ _ _)) he
  | updateGesture p h => exact mem_of_map_id_eq (ids_eq_of_mark (mark_editLive _ _ _)) he
  | setCanvas canvas => exact ⟨_, List.mem_map_of_mem he, e.fit_id _ _⟩
  | switchTo | addScene | duplicateScene | deleteScene | reset | importText =>
    exact absurd ha (by simp [Action.turns])
  | _ => exact ⟨e, he, rfl⟩

end Session

namespace Editor

variable {ed : Editor} {c : Call} {a : Action} {g : Gesture}

/-- The element of the gesture in progress is on the canvas. -/
def Held (ed : Editor) : Prop :=
  ∀ g, ed.gesture = some g → ∃ e ∈ ed.session.live, e.id = g.element

/-- A gesture begins on an element that is on the canvas. -/
lemma exists_of_beginGesture {id : ElementId} {kind : GestureKind} {p : Position}
    (h : ed.session.beginGesture id kind p = .ok g) : ∃ e ∈ ed.session.live, e.id = g.element := by
  unfold Session.beginGesture Session.element at h
  cases he : ed.session.element? id with
  | none => simp [he, bind, Except.bind] at h
  | some e =>
    rw [he] at h
    obtain rfl : Gesture.start kind e p ed.session.fonts = g := Except.ok.inj h
    exact ⟨e, List.mem_of_find?_eq_some he, rfl⟩

/-- The gesture that a call leaves behind is on an element that was on the canvas before. -/
lemma Held.gesture? (h : ed.Held) (hg : c.gesture? ed = some g) :
    ∃ e ∈ ed.session.live, e.id = g.element := by
  have hkept (hg : (if c.releases ed then none else ed.gesture) = some g) :
      ∃ e ∈ ed.session.live, e.id = g.element := by
    split at hg
    · cases hg
    · exact h g hg
  cases c with
  | pointerDown id p resize =>
    simp only [Call.gesture?] at hg
    split at hg
    · rename_i hbegin
      obtain rfl := Option.some.inj hg
      exact exists_of_beginGesture hbegin
    · exact h g hg
  | _ => exact hkept hg

/-- A call that leaves a gesture behind takes its element off the canvas in no way. -/
lemma keeps_of_gesture? (hg : c.gesture? ed = some g) (ha : c.action? ed = some a) :
    a.turns = false ∧ a ≠ .removeElement g.element := by
  cases c with
  | removeElement id =>
    obtain rfl := Option.some.inj ha
    refine ⟨rfl, ?_⟩
    rintro heq
    cases heq
    simp only [Call.gesture?, Call.releases] at hg
    cases hown : ed.gesture.any (·.element = g.element) with
    | true => simp [hown] at hg
    | false =>
      have hkept : ed.gesture = some g := by simpa [hown] using hg
      simp [hkept] at hown
  | setProperty id key value =>
    obtain ⟨edit, -, rfl⟩ := Option.map_eq_some_iff.mp ha
    exact ⟨rfl, by simp⟩
  | setTrigger id kind target value =>
    obtain ⟨edit, -, rfl⟩ := Option.map_eq_some_iff.mp ha
    exact ⟨rfl, by simp⟩
  | pointerMove p =>
    obtain ⟨d, -, rfl⟩ := Option.map_eq_some_iff.mp ha
    exact ⟨rfl, by simp⟩
  | switchScene | addScene | duplicateScene | deleteScene | setCanvas | reset | importText =>
    cases hg
  | _ =>
    cases ha
    try exact ⟨rfl, by simp⟩

lemma Held.call (hs : ed.session.Consistent) (h : ed.Held) (c : Call) : (ed.call c).2.Held := by
  intro g hg
  rw [call_snd] at hg ⊢
  cases ha : c.action? ed with
  | none =>
    rw [ha] at hg
    exact h.gesture? hg
  | some a =>
    rw [ha] at hg
    have hg : c.gesture? ed = some g := hg
    obtain ⟨e, he, hid⟩ := h.gesture? hg
    obtain ⟨hturns, hremove⟩ := keeps_of_gesture? hg ha
    rw [← hid] at hremove ⊢
    change ∃ e' ∈ (ed.session.after ed.next a).1.live, e'.id = e.id
    obtain ⟨o, hstep⟩ | hsame := Session.after_cases hs ed.next a
    · exact hstep.live_kept hturns he hremove
    · rw [hsame]
      exact ⟨e, he, rfl⟩

lemma Reachable.held (h : Reachable ed) : ed.Held := by
  induction h with
  | start n =>
    intro g hg
    cases hg
  | call h c ih => exact ih.call h.session.consistent c
  | later h hm ih => exact ih

/-- A gesture never outlives its element. In every editor to which calls lead, the element of the
gesture in progress is on the canvas; so a pointer that moves shows an element anew exactly when a
gesture is in progress, and never an unknown one. -/
theorem gesture_held (h : Reachable ed) :
    (∀ g, ed.gesture = some g → ∃ e ∈ ed.session.live, e.id = g.element) ∧
      ∀ p, (ed.pointerMove p).1 = ed.gesture.isSome ∧
        ∀ g, ed.gesture = some g → ∀ e, ed.session.updateGesture g p ≠ .error e := by
  have hknown (g : Gesture) (hg : ed.gesture = some g) (p : Position) (e : SessionError) :
      ed.session.updateGesture g p ≠ .error e := by
    rw [Session.updateGesture, Ne, Session.edit_eq_error]
    rintro ⟨hunknown, -⟩
    obtain ⟨e, he, hid⟩ := h.held g hg
    exact hunknown e he hid
  refine ⟨h.held, fun p => ⟨?_, fun g hg => hknown g hg p⟩⟩
  cases hg : ed.gesture with
  | none => simp [pointerMove, hg]
  | some g =>
    cases hu : ed.session.updateGesture g p with
    | error e => exact absurd hu (hknown g hg p e)
    | ok s => simp [pointerMove, hg, act, Session.perform, hu, Session.quiet, Except.map]

/-- A drag goes on while another element is removed and the scene gets another name. -/
theorem gesture_held_renamed_scene :
    let calls : List Call :=
      [.createElement "button" ⟨10, 20⟩, .createElement "label" ⟨5, 5⟩,
        .pointerDown (.numbered "button" 1) ⟨12, 25⟩ false, .removeElement (.numbered "label" 2),
        .renameScene "Start", .removeElement (.numbered "label" 2)]
    let ed := ((start 0).run calls).2
    (∃ g, ed.gesture = some g ∧ ∃ e ∈ ed.session.live, e.id = g.element) ∧
      (ed.pointerMove ⟨40, 50⟩).1 = true := by
  intro calls ed
  obtain ⟨hheld, hmove⟩ := gesture_held ((Reachable.start 0).run calls)
  have hsome : ed.gesture.isSome = true := by decide +kernel
  obtain ⟨g, hg⟩ := Option.isSome_iff_exists.mp hsome
  exact ⟨⟨g, hg, hheld g hg⟩, (hmove ⟨40, 50⟩).1.trans hsome⟩

end Editor

end Storyboard
