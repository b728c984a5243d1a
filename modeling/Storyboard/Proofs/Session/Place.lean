import Storyboard.Proofs.Session.MenuBar
import Storyboard.Proofs.Session.Reopening

/-!
# Places and sizes after saving and opening

An element has a size in pixels at all times, unless its kind is unknown and nobody has sized it.
So sizes come back, and an element of an unknown size gets the one that documents fall back to.
Opening brings every element inside the canvas, so only what lay inside stays where it was.
-/

namespace Storyboard

/-- A box with its corner at a position lies on the canvas. -/
def Canvas.Contains (c : Canvas) (size : Int × Int) (p : Position) : Prop :=
  (0 ≤ p.x ∧ p.x + size.1 ≤ c.width) ∧ 0 ≤ p.y ∧ p.y + size.2 ≤ c.height

lemma Canvas.Contains.clamp_eq {c : Canvas} {size : Int × Int} {p : Position}
    (h : c.Contains size p) : c.clamp size.1 size.2 p = p := by
  obtain ⟨⟨hx, hw⟩, hy, hh⟩ := h
  have hside {extent length i : Int} (hi : 0 ≤ i) (hl : i + length ≤ extent) :
      clampSide extent length i = i := by
    simp only [clampSide]
    omega
  rw [clamp, hside hx hw, hside hy hh]

lemma Kind.bare_eq_other {k : Kind} {tag : String} : k.bare = .other tag ↔ k = .other tag := by
  cases k <;> simp [bare]

namespace Element

variable {canvas : Canvas} {fonts fonts' : FontSizes} {e e' : Element}

/-- How the size of an element is known. -/
inductive Sized (e : Element) : Prop
  | menu (h : e.kind.isMenu = true)
  | pixels {width height : Int} (hw : 0 < width) (hh : 0 < height) (h : e.size = .px width height)
  | unknown {tag : String} (hk : e.kind = .other tag) (h : e.size = .auto)

/-- The size that an element has after saving and opening. What was never sized gets the size that
documents fall back to. -/
def returnedSize (fonts : FontSizes) (e : Element) : Int × Int :=
  if e.size = .auto then (ElementEntry.fallbackWidth, ElementEntry.fallbackHeight)
  else e.resolvedSize fonts

/-- The position that an element has after saving and opening: its own, brought inside the canvas
unless it is a menu. -/
def returnedPosition (canvas : Canvas) (fonts : FontSizes) (e : Element) : Position :=
  if e.kind.isMenu then e.position
  else canvas.clamp (e.returnedSize fonts).1 (e.returnedSize fonts).2 e.position

/-- The second element is where the first comes back, under the fonts of each, and that is where it
was if it was sized and lies on the canvas. -/
structure PlaceReturns (canvas : Canvas) (fonts fonts' : FontSizes) (e e' : Element) : Prop where
  size : e'.resolvedSize fonts' = e.returnedSize fonts
  position : e'.position = e.returnedPosition canvas fonts
  inside : e.size ≠ .auto → canvas.Contains (e.resolvedSize fonts) e.position →
    e'.resolvedSize fonts' = e.resolvedSize fonts ∧ e'.position = e.position

/-! ### Every element has a size -/

lemma Sized.congr (h : e.Sized) (hk : e'.kind.bare = e.kind.bare) (hs : e'.size = e.size) :
    e'.Sized := by
  cases h with
  | menu h =>
    have hmenu := congrArg Kind.isMenu hk
    rw [Kind.isMenu_bare, Kind.isMenu_bare, h] at hmenu
    exact .menu hmenu
  | pixels hw hh h => exact .pixels hw hh (hs.trans h)
  | unknown hk' h =>
    rw [hk'] at hk
    exact .unknown (Kind.bare_eq_other.mp hk) (hs.trans h)

lemma Sized.fit (h : e.Sized) (canvas : Canvas) (fonts : FontSizes) :
    (e.fit canvas fonts).Sized := by
  cases hm : e.kind.isMenu with
  | true => exact .menu (by simpa using hm)
  | false =>
    rw [fit_of_not_menu canvas fonts e hm]
    exact h.congr rfl rfl

lemma sized_create (n : Nat) (kind : Kind) (p : Position) (canvas : Canvas) :
    (create n kind p canvas).Sized := by
  cases kind
  case menu => exact .menu rfl
  case other tag => exact .unknown rfl rfl
  all_goals exact .pixels (by decide) (by decide) rfl

lemma Incoming.sized (h : e.Incoming canvas) : e.Sized := by
  cases h with
  | menu fonts n => exact (sized_create n .menu {} canvas).fit canvas fonts
  | @entry entry hr hk c fonts n =>
    refine Sized.fit ?_ canvas fonts
    have hcanonical : (entry.toElement c fonts n).Canonical c := ElementEntry.canonical_toElement hk
    cases hm : (entry.toElement c fonts n).kind.isMenu with
    | true => exact .menu hm
    | false =>
      obtain ⟨w, height, hw, hh, hsize⟩ := (hcanonical.item hm).size
      exact .pixels hw hh hsize

/-- An edit leaves the size or gives a new one, down to the floor. -/
lemma Sized.changed {ctx : EditContext} (hf : 1 ≤ ctx.floor) (h : e.Sized)
    (hchanged : Edit.Changed ctx e e') : e'.conform.Sized := by
  suffices he' : e'.Sized from he'.congr (by simp) (by simp)
  cases hchanged with
  | size w height =>
    refine .pixels ?_ ?_ rfl
    · simp only [floorSize]
      omega
    · simp only [floorSize]
      omega
  | kind hk => exact h.congr hk rfl
  | _ => exact h.congr rfl rfl

/-! ### The place that comes back -/

lemma resolvedSize_px {w h : Int} (hs : e.size = .px w h) (fonts : FontSizes) :
    e.resolvedSize fonts = (w, h) := by
  rw [resolvedSize, hs]
  rfl

lemma returnedSize_px {w h : Int} (hs : e.size = .px w h) (fonts : FontSizes) :
    e.returnedSize fonts = (w, h) := by
  have hne : e.size ≠ .auto := by
    rw [hs]
    exact fun h => by cases h
  rw [returnedSize, if_neg hne, resolvedSize_px hs]

/-- An element that lies on the canvas stays there. -/
lemma returnedPosition_eq (hs : e.size ≠ .auto)
    (h : canvas.Contains (e.resolvedSize fonts) e.position) :
    e.returnedPosition canvas fonts = e.position := by
  unfold returnedPosition
  split
  · rfl
  · rw [returnedSize, if_neg hs, h.clamp_eq]

/-- Size and position say where an element on the canvas is. -/
lemma placeReturns_of (hsize : e'.resolvedSize fonts' = e.returnedSize fonts)
    (hposition : e'.position = e.returnedPosition canvas fonts) :
    e.PlaceReturns canvas fonts fonts' e' := by
  refine ⟨hsize, hposition, fun hs hinside => ?_⟩
  rw [hsize, hposition, returnedPosition_eq hs hinside, returnedSize, if_neg hs]
  exact ⟨rfl, rfl⟩

/-- Sides that are not known come back as documents fall back to. -/
lemma toSize_reread_unknown {tag : String} (hm : e.kind.isMenu = false) (hs : e.size = .auto)
    (text : String) (style : Style) :
    e.toEntry.reread.toSize canvas fonts (.other tag) text style
      = .px ElementEntry.fallbackWidth ElementEntry.fallbackHeight := by
  have hwidth := width_reread_toEntry hm
  have hheight := height_reread_toEntry hm
  rw [hs] at hwidth hheight
  simp only [ElementEntry.toSize, hwidth, hheight]
  rfl

/-- An element that is no menu comes back with the size that its entry gives, at the nearest
position inside the canvas. -/
lemma fit_toElement_reread (htagged : e.kind.Tagged) (hr : e.InRange)
    (hm : e.kind.isMenu = false) {w h : Int}
    (hs : ∀ text style, e.toEntry.reread.toSize canvas fonts e.kind.settled text style = .px w h)
    (n : Nat) : ((e.toEntry.reread.toElement canvas fonts n).fit canvas fonts).size = .px w h ∧
      ((e.toEntry.reread.toElement canvas fonts n).fit canvas fonts).position
        = canvas.clamp w h e.position := by
  have hkind := toKind_reread_toEntry htagged
  have hsize : (e.toEntry.reread.toElement canvas fonts n).size = .px w h := by
    rw [ElementEntry.toElement_of_not_menu canvas fonts n (by simp [hkind, hm]), hkind]
    exact hs _ _
  have hposition : (e.toEntry.reread.toElement canvas fonts n).position = e.position := by
    rw [ElementEntry.toElement_of_not_menu canvas fonts n (by simp [hkind, hm]),
      x_reread_toEntry hm hr, y_reread_toEntry hm hr]
  have hmenu : (e.toEntry.reread.toElement canvas fonts n).kind.isMenu = false := by
    rw [ElementEntry.toElement_of_not_menu canvas fonts n (by simp [hkind, hm]), hkind,
      Kind.isMenu_settled, hm]
  rw [fit_of_not_menu canvas fonts _ hmenu]
  exact ⟨hsize, by rw [inside, resolvedSize_px hsize, hposition]⟩

/-- A menu comes back as it was. -/
lemma CanonicalMenu.placeReturns (h : e.CanonicalMenu canvas) (hm : e.kind.isMenu = true)
    (hr : e.InRange) (n : Nat) : e.PlaceReturns canvas fonts fonts'
      ((e.toEntry.reread.toElement canvas fonts' n).fit canvas fonts') := by
  have hnumbered : (e.renumber n).CanonicalMenu canvas :=
    ⟨h.text, h.style, h.trigger, h.x, h.size⟩
  have hsame : (e.toEntry.reread.toElement canvas fonts' n).fit canvas fonts' = e.renumber n := by
    rw [h.toElement_reread hm hr]
    exact hnumbered.fit hm fonts'
  obtain ⟨height, -, hsize, -⟩ := h.size
  rw [hsame]
  apply placeReturns_of
  · rw [resolvedSize_px (e := e.renumber n) hsize, returnedSize_px hsize]
  · rw [returnedPosition, if_pos hm]
    rfl

/-- The entry of an element gives its place and its size again. -/
lemma Sized.placeReturns (h : e.Sized) (htagged : e.kind.Tagged) (hr : e.InRange)
    (hmenu : e.kind.isMenu = true → e.CanonicalMenu canvas) (n : Nat) :
    e.PlaceReturns canvas fonts fonts'
      ((e.toEntry.reread.toElement canvas fonts' n).fit canvas fonts') := by
  cases hm : e.kind.isMenu with
  | true => exact (hmenu hm).placeReturns hm hr n
  | false =>
    obtain ⟨w, height, hreturned, hread⟩ : ∃ w height, e.returnedSize fonts = (w, height) ∧
        ∀ text style, e.toEntry.reread.toSize canvas fonts' e.kind.settled text style
          = .px w height := by
      cases h with
      | menu h => exact absurd h (by simp [hm])
      | @pixels w height hw hh hsize =>
        exact ⟨w, height, returnedSize_px hsize fonts,
          toSize_reread_toEntry hm hr hw hh hsize canvas fonts' _⟩
      | @unknown tag hk hsize =>
        refine ⟨_, _, if_pos hsize, ?_⟩
        rw [hk]
        exact toSize_reread_unknown hm hsize
    obtain ⟨hsize, hposition⟩ := fit_toElement_reread htagged hr hm hread n
    apply placeReturns_of
    · rw [resolvedSize_px hsize, hreturned]
    · rw [hposition, returnedPosition, hm, hreturned]
      rfl

end Element

namespace Session

variable {s : Session} {n : Nat} {a : Action} {canvas : Canvas} {e : Element}

lemma Origin.sized (hf : 1 ≤ s.config.minElementSize) (hs : ∀ d, s.Holds d → d.Sized)
    (h : s.Origin a canvas e) : e.Sized := by
  cases h with
  | held h => exact hs e h
  | incoming h => exact h.sized
  | created n kind p => exact (Element.sized_create n kind p s.canvas).fit s.canvas s.fonts
  | @copied a d h n => exact (hs d h).congr rfl rfl
  | edited h id edit => exact (hs _ h).changed hf (edit.changed _ _)
  | dragged h g p => exact (hs _ h).changed hf ((g.edit p).changed _ _)
  | fitted h canvas => exact (hs _ h).fit canvas s.fonts

/-- Where resizing leaves at least a pixel, every element of a session has a size. -/
lemma Reachable.sized {admits : Action → Prop} (h : Reachable admits s n)
    (hf : 1 ≤ s.config.minElementSize) : ∀ e, s.Holds e → e.Sized := by
  refine h.forall_holds (P := fun _ e => e.Sized) (fun he => he.sized) ?_ rfl
  intro t a canvas e hc _ hd he
  rw [← hc] at hf
  exact he.sized hf hd

/-- Only elements of unknown kinds are not sized. -/
lemma Reachable.kind_of_unsized {admits : Action → Prop} (h : Reachable admits s n)
    (hf : 1 ≤ s.config.minElementSize) (he : s.Holds e) (hs : e.size = .auto) :
    ∃ tag, e.kind = .other tag := by
  cases h.sized hf e he with
  | menu hm =>
    obtain ⟨height, -, hsize, -⟩ := (h.canonicalMenu e he hm).size
    rw [hs] at hsize
    cases hsize
  | pixels _ _ hsize =>
    rw [hs] at hsize
    cases hsize
  | unknown hk _ => exact ⟨_, hk⟩

/-- The place of an element comes back on the same canvas. -/
lemma Reachable.placeReturns {admits : Action → Prop} (hs : Reachable admits s n)
    (hf : 1 ≤ s.config.minElementSize) (he : s.Holds e) (htagged : e.kind.Tagged)
    (hr : e.InRange) (fonts : FontSizes) (i : Nat) : e.PlaceReturns s.canvas s.fonts fonts
      ((e.toEntry.reread.toElement s.canvas fonts i).fit s.canvas fonts) :=
  (hs.sized hf e he).placeReturns htagged hr (hs.canonicalMenu e he) i

/-- A session can be saved, and every session with its canvas can open what it saved. Every element
that has a tag keeps its size then, unless its kind is unknown and it was never sized. A menu keeps
its place, and so does an element that lies on the canvas; others come inside. -/
theorem place_after_reopening (hs : Reachable Action.Regular s n)
    (hfloor : 1 ≤ s.config.minElementSize) (hr : s.whole.InRange) (hf : s.fonts.Bounded) :
    (∀ e, s.Holds e → e.size = .auto → ∃ tag, e.kind = .other tag) ∧
      ∃ text, s.perform n .exportText = (.ok (.text text, s.snapshot), n) ∧
        ∀ (t : Session) (k : Nat), t.canvas = s.canvas → ∃ t' k',
          t.perform k (.importText text) = (.ok (.nothing, t'), k') ∧
            s.whole.scenes.typed.Alike (Element.PlaceReturns s.canvas s.fonts t'.fonts)
              t'.project.scenes := by
  refine ⟨fun e he => hs.kind_of_unsized hfloor he, s.whole.toText,
    perform_exportText hs.consistent n, fun t k hcanvas => ?_⟩
  obtain ⟨t', k', himport, hfonts, halike⟩ := exists_reopened
    (R := Element.PlaceReturns s.canvas s.fonts s.fonts.reread) hs hr hf t
    (fun e he htagged hrange i => hcanvas ▸ hs.placeReturns hfloor he htagged hrange _ i) k
  exact ⟨t', k', himport, hfonts ▸ halike⟩

/-- A button beyond the right edge and a timer that was never sized, with a menu in the next scene,
on a canvas that came late. -/
theorem place_after_reopening_small_canvas :
    let actions : List Action :=
      [.addElement .button ⟨300, 20⟩, .addElement (.ofTag "timer") ⟨5, 90⟩, .addScene,
        .setCanvas ⟨320, 200⟩, .switchTo "Scene 1", .edit (.numbered "button" 0) (.resize 250 10),
        .edit (.numbered "timer" 1) (.text "A long text"), .edit (.numbered "timer" 1) (.font .big)]
    let s := ((Session.new {} 0).1.run 0 actions).1
    let t := (Session.new { canvas := ⟨320, 200⟩ } 5).1
    Reachable Action.Regular s 3 ∧ 1 ≤ s.config.minElementSize ∧ s.whole.InRange ∧
      s.fonts.Bounded ∧ t.canvas = s.canvas ∧
      (∀ e, s.Holds e → e.size = .auto → ∃ tag, e.kind = .other tag) ∧
      ∃ text, s.perform 3 .exportText = (.ok (.text text, s.snapshot), 3) ∧
        ∃ t' k', t.perform 5 (.importText text) = (.ok (.nothing, t'), k') ∧
          s.whole.scenes.typed.Alike (Element.PlaceReturns s.canvas s.fonts t'.fonts)
            t'.project.scenes := by
  intro actions s t
  have hregular : ∀ a ∈ actions, a.Regular := by
    simp only [actions, List.forall_mem_cons, List.not_mem_nil, false_implies, implies_true,
      and_true]
    exact ⟨rfl, Kind.regular_ofTag "timer", trivial, trivial, trivial, trivial, trivial, trivial⟩
  have hs : Reachable Action.Regular s 3 := (Reachable.new {} 0).run hregular
  have hfloor : 1 ≤ s.config.minElementSize := by decide
  have hr : s.whole.InRange := by decide +kernel
  have hf : s.fonts.Bounded := by decide +kernel
  obtain ⟨hunsized, text, hexport, himport⟩ := place_after_reopening hs hfloor hr hf
  exact ⟨hs, hfloor, hr, hf, rfl, hunsized, text, hexport, himport t 5 rfl⟩

/-- A button that was made wider than the room to its right moves to the left, and a timer that was
never sized is smaller than its text. -/
theorem place_lost_by_reopening :
    let actions : List Action :=
      [.addElement .button ⟨1100, 20⟩, .addElement (.ofTag "timer") ⟨5, 90⟩,
        .edit (.numbered "button" 0) (.resize 400 60),
        .edit (.numbered "timer" 1) (.text "A long text")]
    let s := ((Session.new {} 0).1.run 0 actions).1
    let places (fonts : FontSizes) (t : SceneTable) : List (String × List (Position × Int × Int)) :=
      t.scenes.map fun scene =>
        (scene.name, scene.elements.map fun e => (e.position, e.resolvedSize fonts))
    Reachable Action.Regular s 2 ∧ 1 ≤ s.config.minElementSize ∧
      ∃ text, s.perform 2 .exportText = (.ok (.text text, s.snapshot), 2) ∧
        ∃ t' k', (Session.new {} 0).1.perform 0 (.importText text) = (.ok (.nothing, t'), k') ∧
          places s.fonts s.whole.scenes
            = [("Scene 1", [(⟨1100, 20⟩, 400, 60), (⟨5, 90⟩, 175, 34)])] ∧
          places t'.fonts t'.project.scenes
            = [("Scene 1", [(⟨880, 20⟩, 400, 60), (⟨5, 90⟩, 100, 40)])] := by
  intro actions s places
  have hregular : ∀ a ∈ actions, a.Regular := by
    simp only [actions, List.forall_mem_cons, List.not_mem_nil, false_implies, implies_true,
      and_true]
    exact ⟨rfl, Kind.regular_ofTag "timer", trivial, trivial⟩
  have hs : Reachable Action.Regular s 2 := (Reachable.new {} 0).run hregular
  have hfloor : 1 ≤ s.config.minElementSize := by decide
  obtain ⟨t', k', himport, hfonts, halike⟩ := exists_reopened
    (R := fun e e' => (e'.position, e'.resolvedSize s.fonts.reread)
      = (e.returnedPosition s.canvas s.fonts, e.returnedSize s.fonts))
    hs (by decide +kernel) (by decide +kernel) (Session.new {} 0).1 (by
      intro e he htagged hrange i
      obtain ⟨hsize, hposition, -⟩ := hs.placeReturns hfloor he htagged hrange s.fonts.reread i
      exact Prod.ext hposition hsize) 0
  have hreturned : s.whole.scenes.typed.scenes.map (fun scene => (scene.name,
      scene.elements.map fun e => (e.returnedPosition s.canvas s.fonts, e.returnedSize s.fonts)))
        = [("Scene 1", [(⟨880, 20⟩, 400, 60), (⟨5, 90⟩, 100, 40)])] := by
    decide +kernel
  rw [← hfonts] at halike
  exact ⟨hs, hfloor, s.whole.toText, perform_exportText hs.consistent 2, t', k', himport,
    by decide +kernel, halike.map_eq.trans hreturned⟩

end Session

end Storyboard
