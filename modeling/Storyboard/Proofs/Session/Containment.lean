import Storyboard.Proofs.Session.MenuBar

/-!
# Elements inside the canvas

A box lies inside the canvas if all of it does, or if it starts at zero where it is too long. Every
element but a menu lies inside right after it was placed: when it is new, when it was moved or
dragged, when its document was opened, and when the canvas has changed.
-/

namespace Storyboard

namespace Canvas

variable {extent length i : Int} {c : Canvas} {size : Int × Int} {p : Position}

/-- A side of a length at a coordinate lies inside an extent, or starts at zero if it is too
long. -/
structure SideInside (extent length i : Int) : Prop where
  nonneg : 0 ≤ i
  fits : length ≤ extent → i + length ≤ extent
  starts : extent < length → i = 0

/-- A box with its corner at a position lies inside the canvas on both sides. -/
structure Inside (c : Canvas) (size : Int × Int) (p : Position) : Prop where
  horizontal : SideInside c.width size.1 p.x
  vertical : SideInside c.height size.2 p.y

lemma sideInside_clampSide (extent length i : Int) :
    SideInside extent length (clampSide extent length i) := by
  refine ⟨?_, fun h => ?_, fun h => ?_⟩ <;> simp only [clampSide] <;> omega

lemma SideInside.clampSide_eq (h : SideInside extent length i) :
    clampSide extent length i = i := by
  obtain ⟨hnonneg, hfits, hstarts⟩ := h
  simp only [clampSide]
  omega

lemma inside_clamp (c : Canvas) (size : Int × Int) (p : Position) :
    c.Inside size (c.clamp size.1 size.2 p) :=
  ⟨sideInside_clampSide _ _ _, sideInside_clampSide _ _ _⟩

lemma Inside.clamp_eq (h : c.Inside size p) : c.clamp size.1 size.2 p = p := by
  rw [clamp, h.horizontal.clampSide_eq, h.vertical.clampSide_eq]

end Canvas

namespace Element

variable {canvas : Canvas} {fonts : FontSizes} {e e' : Element}

/-- The element lies inside the canvas with the size that it shows. -/
def LiesInside (canvas : Canvas) (fonts : FontSizes) (e : Element) : Prop :=
  canvas.Inside (e.resolvedSize fonts) e.position

/-- The second element is what becomes of the first on another canvas. It looks and acts as it did.
A menu aside, it has its size, lies inside the canvas, and stays where it was if that is inside. -/
structure Refits (canvas : Canvas) (fonts : FontSizes) (e e' : Element) : Prop where
  id : e'.id = e.id
  kind : e'.kind = e.kind
  text : e'.text = e.text
  style : e'.style = e.style
  trigger : e'.trigger = e.trigger
  size : e.kind.isMenu = false → e'.size = e.size
  inside : e.kind.isMenu = false → e'.LiesInside canvas fonts
  stays : e.kind.isMenu = false → e.LiesInside canvas fonts → e'.position = e.position

lemma liesInside_moveTo (canvas : Canvas) (fonts : FontSizes) (p : Position) (e : Element) :
    (e.moveTo canvas fonts p).LiesInside canvas fonts :=
  canvas.inside_clamp (e.resolvedSize fonts) p

lemma liesInside_fit (canvas : Canvas) (fonts : FontSizes) (h : e.kind.isMenu = false) :
    (e.fit canvas fonts).LiesInside canvas fonts := by
  rw [fit, if_neg (by simp [h])]
  exact liesInside_moveTo canvas fonts e.position e

lemma refits_fit (canvas : Canvas) (fonts : FontSizes) (e : Element) :
    e.Refits canvas fonts (e.fit canvas fonts) := by
  refine ⟨by simp, by simp, by simp, by simp, by simp, fun h => ?_, liesInside_fit canvas fonts,
    fun h hinside => ?_⟩
  · rw [fit_of_not_menu canvas fonts e h]
  · rw [fit_of_not_menu canvas fonts e h]
    exact hinside.clamp_eq

/-- The rules of the kinds leave the size that an element shows, unless it is a menu. -/
lemma resolvedSize_conform (fonts : FontSizes) (h : e.kind.isMenu = false) :
    e.conform.resolvedSize fonts = e.resolvedSize fonts := by
  obtain ⟨id, kind, position, size, text, style, trigger⟩ := e
  cases kind with
  | menu => simp [Kind.isMenu] at h
  | _ => rfl

lemma LiesInside.conform (h : e.LiesInside canvas fonts) (hm : e.kind.isMenu = false) :
    e.conform.LiesInside canvas fonts := by
  rw [LiesInside, resolvedSize_conform fonts hm, conform_position]
  exact h

/-- An element that is moved lies inside the canvas, wherever it is moved to. -/
lemma liesInside_apply_move (ctx : EditContext) (h : e.kind.isMenu = false) (p : Position) :
    ((Edit.move p).apply ctx e).LiesInside ctx.canvas ctx.fonts := by
  have hmoved : (Edit.move p).change ctx e = e.moveTo ctx.canvas ctx.fonts p := by
    rw [Edit.change, if_neg (by simp [h])]
  rw [Edit.apply, hmoved]
  exact (liesInside_moveTo ctx.canvas ctx.fonts p e).conform h

end Element

/-- A drag moves the element, wherever the pointer is. -/
lemma Gesture.exists_edit_eq_move {g : Gesture} (h : g.kind = .drag) (p : Position) :
    ∃ q, g.edit p = .move q := by
  simp only [edit, h]
  exact ⟨_, rfl⟩

namespace Session

variable {s s' : Session} {n m : Nat} {a : Action} {o : Outcome} {e : Element}

/-- The elements that an action has just placed, with what it gave and the session after it. -/
inductive Placed (s' : Session) : Action → Outcome → Element → Prop
  | added {kind : Kind} {p : Position} {e : Element} (h : s'.Holds e) :
      Placed s' (.addElement kind p) (.id e.id) e
  | moved {id : ElementId} {p : Position} {o : Outcome} {e : Element} (h : e ∈ s'.live)
      (hid : e.id = id) : Placed s' (.edit id (.move p)) o e
  | dragged {g : Gesture} {p : Position} {o : Outcome} {e : Element} (hg : g.kind = .drag)
      (h : e ∈ s'.live) (hid : e.id = g.element) : Placed s' (.updateGesture g p) o e
  | opened {text : String} {o : Outcome} {e : Element} (h : s'.Holds e) :
      Placed s' (.importText text) o e

/-! ### Another canvas -/

@[simp] lemma fonts_setCanvas (s : Session) (canvas : Canvas) :
    (s.setCanvas canvas).fonts = s.fonts := rfl

/-- A canvas that is set again changes nothing. -/
lemma setCanvas_setCanvas (s : Session) (canvas : Canvas) :
    (s.setCanvas canvas).setCanvas canvas = s.setCanvas canvas := by
  rw [setCanvas, fonts_setCanvas]
  simp only [setCanvas, SceneTable.fit, SceneTable.mapElements, List.map_map, Function.comp_def,
    Element.fit_fit]

/-- What becomes of every element, live and stored, on another canvas. -/
lemma refits_setCanvas (s : Session) (canvas : Canvas) :
    List.Forall₂ (Element.Refits canvas s.fonts) s.live (s.setCanvas canvas).live ∧
      s.project.scenes.Alike (Element.Refits canvas s.fonts) (s.setCanvas canvas).project.scenes :=
  ⟨List.forall₂_map_right_iff.mpr
      (List.forall₂_same.mpr fun e _ => e.refits_fit canvas s.fonts),
    SceneTable.alike_mapElements fun _ _ e _ => e.refits_fit canvas s.fonts⟩

/-! ### Elements that were placed -/

/-- The name of everything that a session holds is among its names. -/
lemma Reachable.id_mem {admits : Action → Prop} (hs : Reachable admits s n) (he : s.Holds e) :
    e.id ∈ s.elementIds := by
  rcases he with he | ⟨scene, hscene, he⟩
  · exact mem_elementIds he
  · obtain ⟨r, hr, -⟩ := hs.exists_history
    have hperm := hr.named.paired.ids_perm hs.consistent
    exact hperm.mem_iff.mp (List.mem_flatMap.mpr ⟨scene, hscene, List.mem_map_of_mem he⟩)

/-- Nothing that a session holds has the name of an element that is created next. -/
lemma Reachable.id_ne_newElement {admits : Action → Prop} (hs : Reachable admits s n)
    (he : s.Holds e) (kind : Kind) (p : Position) : e.id ≠ (s.newElement n kind p).id := by
  have hmem := hs.id_mem he
  obtain ⟨r, hr, rfl⟩ := hs.exists_history
  have hknown : e.id ∈ r.known := hr.named.known e.id hmem
  intro heq
  rw [heq, newElement_id] at hknown
  exact hr.named.sound.fresh_notMem kind.tag hknown

/-- An element under the name that was given out is the one that was created. -/
lemma Reachable.eq_newElement {admits : Action → Prop} (hs : Reachable admits s n) (kind : Kind)
    (p : Position) : ∀ e, (s.addElement n kind p).Holds e →
      e.id = (s.newElement n kind p).id → e = s.newElement n kind p := by
  refine forall_addElement (fun e he hid => ?_) fun _ => rfl
  exact absurd hid (hs.id_ne_newElement he kind p)

lemma liesInside_newElement (n : Nat) (kind : Kind) (p : Position)
    (h : (s.newElement n kind p).kind.isMenu = false) :
    (s.newElement n kind p).LiesInside s.canvas s.fonts := by
  rw [newElement, Element.fit_kind] at h
  exact Element.liesInside_fit s.canvas s.fonts h

/-- The live element of a name lies inside the canvas once it was moved. -/
lemma liesInside_editLive {id : ElementId} (p : Position) (he : e ∈ s.editLive id (.move p) s.live)
    (hid : e.id = id) (hm : e.kind.isMenu = false) : e.LiesInside s.canvas s.fonts := by
  obtain ⟨d, hd, rfl⟩ := List.mem_map.mp he
  by_cases hd : d.id = id
  · rw [if_pos hd] at hm ⊢
    rw [Edit.apply_isMenu] at hm
    exact Element.liesInside_apply_move s.editContext hm p
  · rw [if_neg hd] at hid
    exact absurd hid hd

/-- Everything in a project that is opened lies inside the canvas. -/
lemma liesInside_replaceProject (s : Session) (p : Project) :
    ∀ e, (s.replaceProject p).Holds e → e.kind.isMenu = false →
      e.LiesInside s.canvas (s.replaceProject p).fonts := by
  have hfit : (p.fit s.canvas).scenes.Forall fun e =>
      e.kind.isMenu = false → e.LiesInside s.canvas p.metadata.fontSizes := by
    refine SceneTable.Forall.mapElements (P := fun _ => True) (fun _ _ _ _ => trivial) ?_
    intro e _ hm
    exact Element.liesInside_fit s.canvas p.metadata.fontSizes (by simpa using hm)
  exact forall_holds (hfit.elements _) hfit

/-- Whatever an action has placed lies inside the canvas, unless it is a menu. -/
lemma Step.liesInside {admits : Action → Prop} (hs : Reachable admits s n)
    (h : Step s n a o s' m) (he : s'.Placed a o e) (hm : e.kind.isMenu = false) :
    e.LiesInside s'.canvas s'.fonts := by
  cases he with
  | @added kind p e he =>
    generalize hid : Outcome.id e.id = o at h
    cases h
    obtain rfl := hs.eq_newElement kind p e he (Outcome.id.inj hid)
    exact liesInside_newElement n kind p hm
  | @moved id p o e he hid =>
    cases h
    exact liesInside_editLive (s := s) p he hid hm
  | @dragged g p o e hg he hid =>
    cases h
    obtain ⟨q, hq⟩ := Gesture.exists_edit_eq_move hg p
    simp only [hq] at he
    exact liesInside_editLive (s := s) q he hid hm
  | opened he =>
    cases h with
    | importText h => exact liesInside_replaceProject s _ e he hm

/-- On another canvas every element, live or stored, looks and acts as it did, and has its size and
lies inside unless it is a menu; what lies inside already stays where it is, and the same canvas
once more changes nothing. What was just created, moved, dragged or opened lies inside the canvas of
the session, unless it is a menu. -/
theorem inside_canvas {admits : Action → Prop} (hs : Reachable admits s n) :
    (∀ canvas, let t := s.setCanvas canvas
      s.perform n (.setCanvas canvas) = (.ok (.nothing, t), n) ∧ t.canvas = canvas ∧
        List.Forall₂ (Element.Refits canvas t.fonts) s.live t.live ∧
        s.project.scenes.Alike (Element.Refits canvas t.fonts) t.project.scenes ∧
        t.setCanvas canvas = t) ∧
      ∀ a o s' m, s.perform n a = (.ok (o, s'), m) →
        ∀ e, s'.Placed a o e → e.kind.isMenu = false → e.LiesInside s'.canvas s'.fonts := by
  refine ⟨fun canvas => ?_, fun a o s' m h e he hm => ?_⟩
  · obtain ⟨hlive, hstored⟩ := s.refits_setCanvas canvas
    exact ⟨rfl, rfl, hlive, hstored, s.setCanvas_setCanvas canvas⟩
  · exact (step_of_perform hs.consistent h).liesInside hs he hm

/-- A timer that its text makes wider than the new canvas, a button that was created far outside in
a stored scene and a label that lies inside already and is moved beyond the corner later. -/
theorem inside_canvas_small :
    let actions : List Action :=
      [.addElement (.ofTag "timer") ⟨300, 20⟩, .edit (.numbered "timer" 0) (.text "A long text"),
        .addElement .button ⟨-5, 9000⟩, .addScene, .addElement .label ⟨10, 10⟩]
    let s := ((Session.new {} 0).1.run 0 actions).1
    let t := s.setCanvas ⟨150, 100⟩
    let positions (u : Session) : List Position := u.live.map (·.position)
    Reachable (fun _ => True) s 4 ∧
      List.Forall₂ (Element.Refits ⟨150, 100⟩ t.fonts) s.live t.live ∧
      s.project.scenes.Alike (Element.Refits ⟨150, 100⟩ t.fonts) t.project.scenes ∧
      t.setCanvas ⟨150, 100⟩ = t ∧
      positions (t.load "Scene 1") = [⟨0, 20⟩, ⟨0, 60⟩] ∧ positions t = [⟨0, 50⟩, ⟨10, 10⟩] ∧
      ∃ s' m, s.perform 4 (.edit (.numbered "label" 3) (.move ⟨5000, 700⟩))
          = (.ok (.nothing, s'), m) ∧
        positions s' = [⟨0, 670⟩, ⟨1160, 680⟩] ∧
        ∀ e ∈ s'.live, e.id = .numbered "label" 3 → e.kind.isMenu = false →
          e.LiesInside s'.canvas s'.fonts := by
  intro actions s t positions
  have hs : Reachable (fun _ => True) s 4 := (Reachable.new {} 0).run fun _ _ => trivial
  obtain ⟨hcanvas, hplaced⟩ := inside_canvas hs
  obtain ⟨-, -, hlive, hstored, hagain⟩ := hcanvas ⟨150, 100⟩
  refine ⟨hs, hlive, hstored, hagain, by decide +kernel, by decide +kernel, _, _, rfl,
    by decide +kernel, fun e he hid hm => ?_⟩
  exact hplaced (.edit (.numbered "label" 3) (.move ⟨5000, 700⟩)) _ _ _ rfl e
    (.moved he hid) hm

end Session

end Storyboard
