import Storyboard.Proofs.Session.Savable

/-!
# Saving and opening again

The text that a session saves can be opened by every session, whatever its canvas. The scenes come
back in their order and the elements in theirs, each with its kind, its trigger and its text; the
variables and the metadata come back as they were. Only places and sizes follow the canvas.
-/

namespace Storyboard

open Json

/-- What a document keeps of an element on every canvas. -/
structure Gist where
  tag : String
  /-- The kind with its data, where an empty source of a picture is none. -/
  kind : Kind
  trigger : Option Trigger
  /-- The text, for kinds that show one. -/
  text : Option String
deriving DecidableEq

def Element.gist (e : Element) : Gist where
  tag := e.kind.tag
  kind := e.kind.settled
  trigger := e.trigger
  text := if e.kind.hasText then some e.text else none

/-- The names of the scenes with what is kept of their elements, in order. -/
def SceneTable.outline (t : SceneTable) : List (String × List Gist) :=
  t.scenes.map fun s => (s.name, s.elements.map Element.gist)

namespace Element

variable {e : Element}

@[simp] lemma gist_fit (canvas : Canvas) (fonts : FontSizes) (e : Element) :
    (e.fit canvas fonts).gist = e.gist := by
  simp [gist]

/-- What is kept of an element is what its entry gives again. -/
lemma Savable.gist_reread (h : e.Savable) (canvas : Canvas) (fonts : FontSizes) (n : Nat) :
    (e.toEntry.reread.toElement canvas fonts n).gist = e.gist := by
  have hkind := toKind_reread_toEntry h.tagged
  have htrigger := toTrigger_reread_toEntry h.trigger
  cases hm : e.kind.isMenu with
  | true =>
    rw [ElementEntry.toElement_of_menu canvas fonts n (by simp [hkind, hm])]
    simp [gist, Kind.isMenu_iff.mp hm, h.trigger hm, Kind.tag, Kind.settled, Kind.hasText]
  | false =>
    rw [ElementEntry.toElement_of_not_menu canvas fonts n (by simp [hkind, hm])]
    simp only [gist, hkind, htrigger, Kind.tag_settled, Kind.settled_settled, Kind.hasText_settled]
    cases ht : e.kind.hasText with
    | true => simp only [toLabel_reread_toEntry ht]
    | false => rfl

end Element

namespace SceneTable

variable {t u : SceneTable}

lemma outline_fit (t : SceneTable) (canvas : Canvas) (fonts : FontSizes) :
    (t.fit canvas fonts).outline = t.outline := by
  simp [outline, fit, mapElements, Function.comp_def]

lemma names_of_outline (h : t.outline = u.outline) : t.names = u.names := by
  have hnames := congrArg (List.map (·.1)) h
  simpa [outline, names, Function.comp_def] using hnames

lemma head?_names (h : t.Valid) : t.names.head? = some t.first.name := by
  cases ht : t.scenes with
  | nil => exact absurd ht h.1
  | cons s ss => simp [names, first, ht]

end SceneTable

namespace Session

variable {s : Session} {n : Nat}

/-- A session that sound actions lead to can be saved, and every session can open what it saved:
the first scene is active then, and nothing has changed but names, places, sizes and styles of
elements. -/
theorem reopen_saved (hs : Reachable Action.Sound s n) (hc : s.config.Sound) :
    ∃ text, s.perform n .exportText = (.ok (.text text, s.snapshot), n) ∧
      ∀ (t : Session) (k : Nat), ∃ t' k',
        t.perform k (.importText text) = (.ok (.nothing, t'), k') ∧
          t'.project.metadata = s.project.metadata ∧ t'.project.vars = s.project.vars ∧
          t'.project.scenes.outline = s.whole.scenes.outline ∧
          s.project.scenes.names.head? = some t'.current ∧
          t'.live = t'.project.scenes.elements t'.current := by
  have hsave := hs.savable hc
  have hvalid := whole_valid hsave.consistent
  have hexport : s.perform n .exportText = (.ok (.text s.whole.toText, s.snapshot), n) := by
    simp [Session.perform, exportText, snapshot_eq hsave.consistent, telling, Except.map]
  refine ⟨s.whole.toText, hexport, fun t k => ?_⟩
  have helements : s.whole.scenes.Forall fun e => e.Legible ∧ e.kind.Tagged ∧ ∀ i,
      (e.toEntry.reread.toElement t.canvas s.whole.metadata.fontSizes i).gist = e.gist :=
    hsave.whole.elements.imp fun e he =>
      ⟨he.legible, he.tagged, fun i => he.gist_reread t.canvas _ i⟩
  obtain ⟨q, k', hq, hm, hv, hscenes⟩ := Project.ofText_toText t.canvas k Element.gist
    Element.gist hvalid hsave.whole.vars hsave.whole.metadata helements "" trivial
    (by simp [tokens])
  rw [String.append_empty] at hq
  have houtline : (q.fit t.canvas).scenes.outline = s.whole.scenes.outline :=
    (q.scenes.outline_fit t.canvas _).trans hscenes
  have hnames := SceneTable.names_of_outline houtline
  have hfirst := SceneTable.head?_names (fit_valid (valid_of_ofText hq) t.canvas)
  rw [hnames, names_whole] at hfirst
  have himport := importText_eq_ok.mpr ⟨q, hq, rfl⟩
  refine ⟨t.replaceProject q, k', ?_, hm, hv, houtline, hfirst, rfl⟩
  simp [Session.perform, himport, quiet, Except.map]

/-- A picture whose empty source and whose trigger are not stored yet, opened on a small canvas. -/
theorem reopen_saved_late_picture :
    let actions : List Action :=
      [.addElement (.ofTag "image") ⟨10, 20⟩, .addVariable "score", .addScene,
        .addElement (.ofTag "timer") ⟨5, 5⟩, .switchTo "Scene 1",
        .edit (.numbered "image" 0) (.image (some "")),
        .edit (.numbered "image" 0) (.trigger (some (.changeScene "Scene 2")))]
    let s := ((Session.new {} 0).1.run 0 actions).1
    Reachable Action.Sound s 3 ∧ s.config.Sound ∧ s.snapshot ≠ s ∧
      ∃ text, s.perform 3 .exportText = (.ok (.text text, s.snapshot), 3) ∧
        ∃ t' k', (Session.new { canvas := ⟨320, 200⟩ } 0).1.perform 0 (.importText text)
            = (.ok (.nothing, t'), k') ∧
          t'.project.metadata = s.project.metadata ∧ t'.project.vars = s.project.vars ∧
          t'.project.scenes.outline = s.whole.scenes.outline ∧
          s.project.scenes.names.head? = some t'.current ∧
          t'.live = t'.project.scenes.elements t'.current := by
  intro actions s
  have hsound : ∀ a ∈ actions, a.Sound := by
    simp only [actions, List.forall_mem_cons, List.not_mem_nil, false_implies, implies_true,
      and_true]
    exact ⟨⟨⟨"image", by decide, rfl⟩, by decide, by decide⟩, trivial, trivial,
      ⟨⟨"timer", by decide, rfl⟩, by decide, by decide⟩, trivial, trivial, trivial⟩
  have hs : Reachable Action.Sound s 3 := (Reachable.new {} 0).run hsound
  have hc : s.config.Sound := ⟨⟨by decide, by decide⟩, by decide, by decide⟩
  obtain ⟨text, hexport, himport⟩ := reopen_saved hs hc
  exact ⟨hs, hc, by decide +kernel, text, hexport, himport _ 0⟩

end Session

end Storyboard
