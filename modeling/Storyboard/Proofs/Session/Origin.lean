import Storyboard.Proofs.Document.Project
import Storyboard.Proofs.Session.Reachable

/-!
# Where elements come from

What a session holds after a step it held before, made of something that it held, or took in new.
This is said once for all actions, so that whatever is proved of the elements of every session
needs a case for each origin and not for each action.
-/

namespace Storyboard

/-- What a session takes in without a choice of a kind: a menu of its own, or an element of a
document, brought inside the canvas. -/
inductive Element.Incoming (canvas : Canvas) : Element → Prop
  | menu (fonts : FontSizes) (n : Nat) :
      Incoming canvas ((Element.create n .menu {} canvas).fit canvas fonts)
  | entry {entry : ElementEntry} (hr : entry.InRange) (hk : entry.kind ≠ "") (c : Canvas)
      (fonts : FontSizes) (n : Nat) :
      Incoming canvas ((entry.toElement c fonts n).fit canvas fonts)

namespace Session

variable {s s' : Session} {n m : Nat} {a : Action} {o : Outcome} {e : Element}

/-- The session has the element, live or stored in one of its scenes. -/
def Holds (s : Session) (e : Element) : Prop :=
  e ∈ s.live ∨ ∃ scene ∈ s.project.scenes.scenes, e ∈ scene.elements

lemma forall_holds {P : Element → Prop} (hl : ∀ e ∈ s.live, P e) (hp : s.project.scenes.Forall P) :
    ∀ e, s.Holds e → P e := by
  rintro e (he | ⟨scene, hscene, he⟩)
  · exact hl e he
  · exact hp scene hscene e he

lemma holds_of_whole {scene : Scene} (hs : scene ∈ s.whole.scenes.scenes)
    (he : e ∈ scene.elements) : s.Holds e := by
  have hwhole : s.whole.scenes.Forall s.Holds :=
    SceneTable.Forall.modify (fun scene hscene e he => .inr ⟨scene, hscene, he⟩)
      fun _ _ e he => .inl he
  exact hwhole scene hs e he

/-- Where an element that a session holds after an action comes from, and the canvas then. -/
inductive Origin (s : Session) : Action → Canvas → Element → Prop
  | held {a : Action} {e : Element} (h : s.Holds e) : Origin s a s.canvas e
  | incoming {a : Action} {e : Element} (h : e.Incoming s.canvas) : Origin s a s.canvas e
  | created (n : Nat) (kind : Kind) (p : Position) :
      Origin s (.addElement kind p) s.canvas (s.newElement n kind p)
  | copied {a : Action} {e : Element} (h : s.Holds e) (n : Nat) : Origin s a s.canvas (e.renumber n)
  | edited {e : Element} (h : s.Holds e) (id : ElementId) (edit : Edit) :
      Origin s (.edit id edit) s.canvas (edit.apply s.editContext e)
  | dragged {e : Element} (h : s.Holds e) (g : Gesture) (p : Position) :
      Origin s (.updateGesture g p) s.canvas ((g.edit p).apply s.editContext e)
  | fitted {e : Element} (h : s.Holds e) (canvas : Canvas) :
      Origin s (.setCanvas canvas) canvas (e.fit canvas s.fonts)

section Parts

variable {P : Element → Prop}

/-- A scene that is turned to holds nothing but what the table holds. -/
lemma forall_load {t : SceneTable} {name : String} (h : t.Forall P) :
    ∀ e, ((s.withScenes t).load name).Holds e → P e :=
  forall_holds (h.elements name) h

lemma forall_addElement {kind : Kind} {p : Position} (h : ∀ e, s.Holds e → P e)
    (hnew : P (s.newElement n kind p)) : ∀ e, (s.addElement n kind p).Holds e → P e := by
  have happend (es : List Element) (hes : ∀ e ∈ es, P e) :
      ∀ e ∈ es ++ [s.newElement n kind p], P e := by
    intro e he
    rcases List.mem_append.mp he with he | he
    · exact hes e he
    · exact List.mem_singleton.mp he ▸ hnew
  have hstored : s.project.scenes.Forall P := fun scene hs e he => h e (.inr ⟨scene, hs, he⟩)
  exact forall_holds (happend s.live fun e he => h e (.inl he)) (hstored.modify happend)

lemma forall_editLive {id : ElementId} {edit : Edit} (h : ∀ e, s.Holds e → P e)
    (hedit : ∀ e, s.Holds e → P (edit.apply s.editContext e)) :
    ∀ e, ({ s with live := s.editLive id edit s.live } : Session).Holds e → P e := by
  refine forall_holds (fun e he => ?_) fun scene hs e he => h e (.inr ⟨scene, hs, he⟩)
  obtain ⟨d, hd, rfl⟩ := List.mem_map.mp he
  split
  · exact hedit d (.inl hd)
  · exact h d (.inl hd)

/-- Everything in a document that is opened is incoming. -/
lemma incoming_replaceProject {p : Project} {canvas : Canvas} {text : String}
    (h : Project.ofText canvas n text = (.ok p, m)) :
    ∀ e, (s.replaceProject p).Holds e → e.Incoming s.canvas := by
  obtain ⟨-, -, -, helements⟩ := Project.of_ofText h
  have hfit : (p.fit s.canvas).scenes.Forall fun e => e.Incoming s.canvas := by
    refine helements.mapElements ?_
    rintro e ⟨entry, i, hrange, hkind, rfl⟩
    exact .entry hrange hkind canvas p.metadata.fontSizes i
  exact forall_holds (hfit.elements _) hfit

lemma incoming_menu (hl : s.live = []) (hp : s.project.scenes = .initial) :
    ∀ e, (s.addElement n .menu {}).Holds e → e.Incoming s.canvas := by
  have hblank : ∀ e, s.Holds e → e.Incoming s.canvas :=
    forall_holds (by simp [hl]) (by rw [hp]; exact SceneTable.forall_initial)
  exact forall_addElement hblank (.menu s.fonts n)

end Parts

/-- Every element after a step has an origin. -/
theorem Step.origin (h : Step s n a o s' m) : ∀ e, s'.Holds e → s.Origin a s'.canvas e := by
  have hheld : ∀ e, s.Holds e → s.Origin a s.canvas e := fun e => .held
  have hstored : s.project.scenes.Forall (s.Origin a s.canvas) :=
    fun scene hs e he => .held (.inr ⟨scene, hs, he⟩)
  have hwhole : s.whole.scenes.Forall (s.Origin a s.canvas) :=
    fun scene hs e he => .held (holds_of_whole hs he)
  have hlive : ∀ e ∈ s.live, s.Origin a s.canvas e := fun e he => .held (.inl he)
  cases h with
  | addElement kind p => exact forall_addElement hheld (.created n kind p)
  | removeElement h =>
    refine forall_holds (fun e he => hlive e (List.mem_of_mem_eraseP he)) ?_
    exact hstored.modify fun es hes e he => hes e (List.mem_filter.mp he).1
  | edit edit h => exact forall_editLive hheld fun e he => .edited he _ edit
  | updateGesture p h => exact forall_editLive hheld fun e he => .dragged he _ p
  | switchTo h => exact forall_load hwhole
  | addScene hn h =>
    refine forall_addElement (forall_load ?_) (.incoming (.menu s.fonts n))
    exact hwhole.add (by simp)
  | renameScene h₁ h₂ => exact forall_holds hlive (hwhole.relabel _ _)
  | duplicateScene h₁ h₂ =>
    refine forall_load (hwhole.add fun e he => ?_)
    obtain ⟨⟨d, i⟩, hd, rfl⟩ := List.mem_map.mp he
    exact .copied (.inl (List.fst_mem_of_mem_zipIdx hd)) i
  | deleteScene h hn => exact forall_load hstored.drop
  | setCanvas canvas =>
    have hfitted : ∀ e, s.Holds e → s.Origin (.setCanvas canvas) canvas (e.fit canvas s.fonts) :=
      fun e he => .fitted he canvas
    refine forall_holds (fun e he => ?_) ?_
    · obtain ⟨d, hd, rfl⟩ := List.mem_map.mp he
      exact hfitted d (.inl hd)
    · have hall : s.project.scenes.Forall s.Holds := fun scene hs e he => .inr ⟨scene, hs, he⟩
      exact hall.mapElements hfitted
  | reset =>
    have hmenu := incoming_menu (n := n) (s := { s with
      project := blankProject s.config, current := SceneTable.defaultName, live := [] }) rfl rfl
    exact fun e he => .incoming (hmenu e he)
  | importText h => exact fun e he => .incoming (incoming_replaceProject h e he)
  | snapshot => exact forall_holds hlive hwhole
  | exportText => exact forall_holds hlive hwhole
  | _ => exact hheld

/-- What a session begins with is incoming. -/
lemma incoming_new (config : SessionConfig) (n : Nat) :
    ∀ e, (Session.new config n).1.Holds e → e.Incoming (Session.new config n).1.canvas := by
  rcases new_cases config n with h | h <;> rw [h]
  · exact incoming_menu rfl rfl
  · exact forall_holds (by simp [blank]) SceneTable.forall_initial

/-- What holds of everything that comes in and is kept whatever origin an element has holds of all
elements of a session. -/
theorem Reachable.forall_holds {admits : Action → Prop} {config : SessionConfig}
    {P : Canvas → Element → Prop} (hincoming : ∀ {canvas e}, e.Incoming canvas → P canvas e)
    (hstep : ∀ {t : Session} {a canvas e}, t.config = config → admits a →
      (∀ d, t.Holds d → P t.canvas d) → t.Origin a canvas e → P canvas e)
    (h : Reachable admits s n) : s.config = config → ∀ e, s.Holds e → P s.canvas e := by
  refine h.invariant (P := fun s => s.config = config → ∀ e, s.Holds e → P s.canvas e)
    ?_ ?_ ?_ ?_
  · intro config n hc e he
    exact hincoming (incoming_new config n e he)
  · intro config canvas n m text p h hc e he
    have hall := incoming_replaceProject (s := ⟨{}, "", [], config.canvas, config⟩) h
    exact hincoming (hall e he)
  · intro t canvas n m text p ht h hc e he
    exact hincoming (incoming_replaceProject h e he)
  · intro t t' n m a o ht ha h hc e he
    have hconfig : t.config = config := h.config_eq ▸ hc
    exact hstep hconfig ha (ht hconfig) (h.origin e he)

end Session

end Storyboard
