import Storyboard.Format
import Storyboard.Proofs.Document.Canonical

/-!
# Formatting twice

What formatting writes is formatted already: a second time gives the same text, with a line break
after it or not. The reason is that a document gives a canonical project, which stays canonical
when it is brought back inside the canvas, and that the text of a project says everything but the
names of its elements.
-/

namespace Storyboard

open Json

/-! ### Texts without names -/

lemma Element.anonymous_toEntry (e : Element) : e.anonymous.toEntry = e.toEntry := rfl

lemma Element.anonymous_fit (canvas : Canvas) (fonts : FontSizes) (e : Element) :
    (e.fit canvas fonts).anonymous = e.anonymous.fit canvas fonts := by
  cases h : e.kind.isMenu with
  | true =>
    rw [fit_of_menu _ _ e h, fit_of_menu _ _ e.anonymous h]
    rfl
  | false =>
    rw [fit_of_not_menu _ _ e h, fit_of_not_menu _ _ e.anonymous h]
    rfl

namespace Project

variable {canvas : Canvas} {p q : Project}

lemma toText_anonymous (p : Project) : p.anonymous.toText = p.toText := by
  have hscenes : (p.scenes.mapElements Element.anonymous).scenes.map (·.toEntry)
      = p.scenes.scenes.map (·.toEntry) := by
    simp [SceneTable.mapElements, Scene.toEntry, Element.anonymous_toEntry, Function.comp_def]
  simp only [toText, toDocument, anonymous, hscenes]

lemma fit_anonymous (canvas : Canvas) (p : Project) :
    (p.fit canvas).anonymous = p.anonymous.fit canvas := by
  simp [Project.fit, anonymous, SceneTable.fit, SceneTable.mapElements, Function.comp_def,
    Element.anonymous_fit]

lemma fit_fit (canvas : Canvas) (p : Project) : (p.fit canvas).fit canvas = p.fit canvas := by
  simp [Project.fit, SceneTable.fit, SceneTable.mapElements, Function.comp_def, Element.fit_fit]

end Project

/-! ### Canonical projects on a canvas -/

namespace Element

variable {canvas : Canvas} {e : Element}

/-- A canonical menu is at the bottom of the canvas already. -/
lemma CanonicalMenu.fit (h : e.CanonicalMenu canvas) (hm : e.kind.isMenu = true)
    (fonts : FontSizes) : e.fit canvas fonts = e := by
  obtain ⟨-, -, -, hx, height, -, hsize, hy⟩ := h
  rw [fit_of_menu canvas fonts e hm, hsize]
  obtain ⟨id, kind, ⟨x, y⟩, size, text, style, trigger⟩ := e
  simp only at hx hsize hy
  subst hx hsize hy
  rfl

lemma Canonical.fit (h : e.Canonical canvas) (fonts : FontSizes) :
    (e.fit canvas fonts).Canonical canvas := by
  cases hm : e.kind.isMenu with
  | true => rwa [(h.menu hm).fit hm fonts]
  | false =>
    obtain ⟨hsize, hcolor, hbackground, hfont, hopacity, htext⟩ := h.item hm
    rw [fit_of_not_menu canvas fonts e hm]
    exact ⟨h.tagged, h.source, fun _ => ⟨hsize, hcolor, hbackground, hfont, hopacity, htext⟩,
      fun hm' => absurd hm' (by simp [hm])⟩

lemma inRange_clampSide {extent length i : Int} (h : Storyboard.InRange i) :
    Storyboard.InRange (Canvas.clampSide extent length i) := by
  simp only [Storyboard.InRange, minCoordinate, maxCoordinate, Canvas.clampSide] at h ⊢
  omega

lemma InRange.fit (h : e.Canonical canvas) (hr : e.InRange) (fonts : FontSizes) :
    (e.fit canvas fonts).InRange := by
  cases hm : e.kind.isMenu with
  | true => rwa [(h.menu hm).fit hm fonts]
  | false =>
    rw [fit_of_not_menu canvas fonts e hm]
    exact ⟨inRange_clampSide hr.x, inRange_clampSide hr.y, hr.width, hr.height⟩

end Element

/-! ### Formatting -/

/-- No number of the document of a text leaves the 32 bits of its field. -/
def FormatOptions.Exact (o : FormatOptions) (text : String) : Prop :=
  ∀ p m, Project.ofText o.canvas 0 text = (.ok p, m) → p.InRange

namespace FormatOptions

variable {o : FormatOptions} {p : Project}

/-- The project whose text is written. -/
def shape (o : FormatOptions) (p : Project) : Project :=
  if o.fit then p.fit o.canvas else p

lemma shape_canonical (h : p.Canonical o.canvas) : (o.shape p).Canonical o.canvas := by
  unfold shape
  split
  · exact ⟨h.scenes.mapElements _, h.vars, h.metadata,
      h.elements.mapElements fun e he => he.fit _⟩
  · exact h

lemma shape_inRange (h : p.Canonical o.canvas) (hr : p.InRange) : (o.shape p).InRange := by
  unfold shape
  split
  · have hboth : p.scenes.Forall fun e => e.Canonical o.canvas ∧ e.InRange :=
      fun s hs e he => ⟨h.elements s hs e he, hr s hs e he⟩
    exact hboth.mapElements fun e he => he.2.fit he.1 _
  · exact hr

lemma shape_anonymous (o : FormatOptions) (p : Project) :
    (o.shape p).anonymous = o.shape p.anonymous := by
  unfold shape
  split
  · exact p.fit_anonymous o.canvas
  · rfl

/-- A canonical project that an option leaves as it is gives its own text again. -/
lemma format_toText (hp : p.Canonical o.canvas) (hr : p.InRange) (hshape : o.shape p = p)
    (rest : String) (hrest : Delimited rest.toList) (ht : tokens rest.toList = []) :
    format o (p.toText ++ rest) = .ok p.toText := by
  obtain ⟨q, m, hq, hanon⟩ := hp.ofText_toText hr 0 rest hrest ht
  have htext : (o.shape q).toText = p.toText := by
    rw [← Project.toText_anonymous, shape_anonymous, hanon, ← shape_anonymous, hshape,
      Project.toText_anonymous]
  rw [format, hq]
  exact congrArg Except.ok htext

end FormatOptions

/-- Formatting the text that formatting gave changes nothing, and neither does a line break after
it. Elements that were brought back inside the canvas need not be brought back again. -/
theorem format_format {o : FormatOptions} {text out : String} (h : format o text = .ok out)
    (hexact : o.Exact text) :
    format o out = .ok out ∧ format o (out ++ "\n") = .ok out ∧
      (o.fit = true → format { o with fit := false } out = .ok out) := by
  rcases hp : Project.ofText o.canvas 0 text with ⟨_ | p, m⟩
  · simp [format, hp, Except.map] at h
  have hout : (o.shape p).toText = out := by
    rw [format, hp] at h
    exact Except.ok.inj h
  have hcanonical := o.shape_canonical (Project.canonical_of_ofText hp)
  have hrange := o.shape_inRange (Project.canonical_of_ofText hp) (hexact p m hp)
  have hshape : o.shape (o.shape p) = o.shape p := by
    unfold FormatOptions.shape
    split
    · exact p.fit_fit o.canvas
    · rfl
  have hnil : tokens "".toList = [] := by simp [tokens]
  have hline : tokens "\n".toList = [] := by simp [tokens, isSpace]
  have hdelim : Delimited "\n".toList := ⟨by decide, by decide, by decide, by decide⟩
  have hself := o.format_toText hcanonical hrange hshape "" trivial hnil
  have hnext := o.format_toText hcanonical hrange hshape "\n" hdelim hline
  have hplain := FormatOptions.format_toText (o := { o with fit := false }) hcanonical hrange rfl
    "" trivial hnil
  rw [String.append_empty, hout] at hself hplain
  rw [hout] at hnext
  exact ⟨hself, hnext, fun _ => hplain⟩

/-- A button beyond the right edge, whose text has a canvas to come back to. -/
theorem format_format_far_button :
    let o : FormatOptions := { fit := true }
    let text := "\x7b\"scenes\":[\x7b\"name\":\"A\",\"elements\":"
      ++ "[\x7b\"type\":\"button\",\"x\":5000,\"width\":null,"
      ++ "\"trigger\":\"play_video\"\x7d]\x7d]\x7d"
    ∃ out, format o text = .ok out ∧ o.Exact text ∧
      format o out = .ok out ∧ format o (out ++ "\n") = .ok out ∧
      format { o with fit := false } out = .ok out := by
  intro o text
  let button : Element :=
    { id := ⟨"button_0"⟩, kind := .button, position := ⟨5000, 0⟩, size := .px 103 40
      text := "Button", style := ⟨some .black, some .white, some .medium, 100⟩
      trigger := some (.playVideo "") }
  let p : Project := { scenes := ⟨[⟨"A", [button]⟩]⟩ }
  have htext : Project.ofText o.canvas 0 text = (.ok p, 1) := by decide +kernel
  have hformat : format o text = .ok (o.textOf p) := by
    rw [format, htext]
    rfl
  have hexact : o.Exact text := by
    intro q m hq
    rw [htext] at hq
    cases hq
    decide
  obtain ⟨h₁, h₂, h₃⟩ := format_format hformat hexact
  exact ⟨_, hformat, hexact, h₁, h₂, h₃ rfl⟩

end Storyboard
