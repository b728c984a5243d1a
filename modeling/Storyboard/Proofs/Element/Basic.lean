import Storyboard.Element.Layout
import Storyboard.Proofs.Element.Kind

/-!
# Elements and the rules of their kinds

What the rules of the kinds and a new canvas leave alone, and that a second time changes nothing.
-/

namespace Storyboard.Element

variable (e : Element)

/-- What an element is called and what it is: its name and the tag of its kind. -/
def mark : ElementId × String :=
  (e.id, e.kind.tag)

/-! ### New elements -/

@[simp] lemma create_id (n : Nat) (kind : Kind) (p : Position) (canvas : Canvas) :
    (create n kind p canvas).id = .numbered kind.tag n := by
  cases kind <;> rfl

@[simp] lemma create_kind (n : Nat) (kind : Kind) (p : Position) (canvas : Canvas) :
    (create n kind p canvas).kind = kind := by
  cases kind <;> rfl

@[simp] lemma renumber_id (n : Nat) : (e.renumber n).id = .numbered e.kind.tag n := rfl

/-! ### The rules of the kinds -/

@[simp] lemma conform_id : e.conform.id = e.id := by
  obtain ⟨id, kind⟩ := e
  cases kind <;> rfl

@[simp] lemma conform_kind : e.conform.kind = e.kind := by
  obtain ⟨id, kind⟩ := e
  cases kind <;> rfl

@[simp] lemma conform_position : e.conform.position = e.position := by
  obtain ⟨id, kind⟩ := e
  cases kind <;> rfl

@[simp] lemma conform_size : e.conform.size = e.size := by
  obtain ⟨id, kind⟩ := e
  cases kind <;> rfl

/-- The rules of the kinds do not look at the position. -/
lemma conform_withPosition (p : Position) :
    ({ e with position := p } : Element).conform = { e.conform with position := p } := by
  obtain ⟨id, kind⟩ := e
  cases kind <;> rfl

/-- The rules of the kinds do not look at the size. -/
lemma conform_withSize (size : Size) :
    ({ e with size } : Element).conform = { e.conform with size } := by
  obtain ⟨id, kind⟩ := e
  cases kind <;> rfl

@[simp] lemma conform_conform : e.conform.conform = e.conform := by
  obtain ⟨id, kind⟩ := e
  cases kind <;> simp [conform]

lemma conform_trigger_of_menu (h : e.kind.isMenu = true) : e.conform.trigger = none := by
  obtain ⟨id, kind⟩ := e
  obtain rfl := Kind.isMenu_iff.mp h
  rfl

variable {e}

/-- An element that keeps the rules is left as it is. -/
lemma conform_eq (h : e.kind.isMenu = false) (hlabel : e.kind = .label → e.style.background = none)
    (hopacity : e.style.opacity ≤ 100) : e.conform = e := by
  obtain ⟨id, kind, position, size, text, ⟨color, background, font, opacity⟩, trigger⟩ := e
  have hmin : min opacity 100 = opacity := Nat.min_eq_left hopacity
  cases kind
  case menu => simp [Kind.isMenu] at h
  case label =>
    obtain rfl : background = none := hlabel rfl
    simp only [conform, hmin]
  all_goals simp only [conform, hmin]

/-! ### A new canvas -/

variable (canvas : Canvas) (fonts : FontSizes) (e : Element)

lemma fit_of_menu (h : e.kind.isMenu = true) :
    e.fit canvas fonts = e.anchor canvas (e.size.height.getD menuHeight) := by
  rw [fit, if_pos h]

/-- The nearest position at which the element stays on the canvas. -/
def inside : Position :=
  canvas.clamp (e.resolvedSize fonts).1 (e.resolvedSize fonts).2 e.position

lemma fit_of_not_menu (h : e.kind.isMenu = false) :
    e.fit canvas fonts = { e with position := e.inside canvas fonts } := by
  rw [fit, if_neg (by simp [h]), moveTo, inside]

@[simp] lemma fit_kind : (e.fit canvas fonts).kind = e.kind := by
  unfold fit
  split <;> rfl

@[simp] lemma fit_id : (e.fit canvas fonts).id = e.id := by
  unfold fit
  split <;> rfl

@[simp] lemma fit_mark : (e.fit canvas fonts).mark = e.mark := by
  simp [mark]

@[simp] lemma fit_text : (e.fit canvas fonts).text = e.text := by
  unfold fit
  split <;> rfl

@[simp] lemma fit_style : (e.fit canvas fonts).style = e.style := by
  unfold fit
  split <;> rfl

@[simp] lemma fit_trigger : (e.fit canvas fonts).trigger = e.trigger := by
  unfold fit
  split <;> rfl

lemma clampSide_clampSide (extent length i : Int) :
    Canvas.clampSide extent length (Canvas.clampSide extent length i)
      = Canvas.clampSide extent length i := by
  simp only [Canvas.clampSide]
  omega

/-- An element that was brought inside the canvas stays where it is. -/
theorem fit_fit : (e.fit canvas fonts).fit canvas fonts = e.fit canvas fonts := by
  cases h : e.kind.isMenu with
  | true =>
    rw [fit_of_menu _ _ (e.fit canvas fonts) (by simpa using h), fit_of_menu _ _ e h]
    rfl
  | false =>
    rw [fit_of_not_menu _ _ (e.fit canvas fonts) (by simpa using h), fit_of_not_menu _ _ e h]
    have hinside : inside canvas fonts { e with position := e.inside canvas fonts }
        = e.inside canvas fonts := by
      change canvas.clamp (e.resolvedSize fonts).1 (e.resolvedSize fonts).2
        (e.inside canvas fonts) = _
      simp only [inside, Canvas.clamp, clampSide_clampSide]
    rw [hinside]

/-! ### Removing by name -/

/-- Where names differ, removing the first element of a name leaves none. -/
lemma eraseP_eq_filter {es : List Element} (h : (es.map (·.id)).Nodup) (id : ElementId) :
    es.eraseP (·.id = id) = es.filter (·.id ≠ id) := by
  induction es with
  | nil => rfl
  | cons e es ih =>
    obtain ⟨hfirst, hothers⟩ := List.nodup_cons.mp h
    by_cases he : e.id = id
    · have hall : es.filter (·.id ≠ id) = es := by
        rw [List.filter_eq_self]
        intro x hx
        rw [decide_eq_true_eq]
        intro hxid
        exact hfirst (List.mem_map.mpr ⟨x, hx, hxid.trans he.symm⟩)
      simp only [List.eraseP_cons, List.filter_cons, he, decide_true, cond_true]
      simpa using hall.symm
    · simpa [List.eraseP_cons, he] using ih hothers

end Storyboard.Element
