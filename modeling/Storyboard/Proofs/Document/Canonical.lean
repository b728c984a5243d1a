import Storyboard.Proofs.Document.Project

/-!
# Canonical projects

Reading a document fills in what is missing and drops what denotes nothing, and writing leaves out
what reading fills in. The projects that reading gives are the canonical ones, and on them reading
undoes writing: everything comes back except for the names of elements, which are given anew.
-/

namespace Storyboard

open Json

/-- A project as a document gives it for a canvas. -/
structure Project.Canonical (canvas : Canvas) (p : Project) : Prop where
  scenes : p.scenes.Valid
  vars : p.vars.Canonical
  metadata : p.metadata.Canonical
  elements : p.scenes.Forall (·.Canonical canvas)

/-- Every coordinate and every side in the project fits the 32 bits of its field. -/
def Project.InRange (p : Project) : Prop :=
  p.scenes.Forall Element.InRange

instance (p : Project) : Decidable p.InRange :=
  inferInstanceAs (Decidable (∀ s ∈ p.scenes.scenes, ∀ e ∈ s.elements, e.InRange))

/-- The element without its name. -/
def Element.anonymous (e : Element) : Element :=
  { e with id := ⟨""⟩ }

/-- The project without the names of its elements. -/
def Project.anonymous (p : Project) : Project :=
  { p with scenes := p.scenes.mapElements Element.anonymous }

namespace Project

variable {canvas : Canvas} {n m : Nat} {p q : Project}

/-- Projects differ in nothing but names when their parts do. -/
lemma anonymous_eq (hm : q.metadata = p.metadata) (hv : q.vars = p.vars)
    (hs : q.scenes.scenes.map (fun s => (s.name, s.elements.map Element.anonymous))
      = p.scenes.scenes.map fun s => (s.name, s.elements.map Element.anonymous)) :
    q.anonymous = p.anonymous := by
  have hscenes :
      q.scenes.mapElements Element.anonymous = p.scenes.mapElements Element.anonymous := by
    have hmap := congrArg (List.map fun x : String × List Element => (⟨x.1, x.2⟩ : Scene)) hs
    simpa [SceneTable.mapElements, Function.comp_def] using hmap
  simp only [anonymous, hm, hv, hscenes]

lemma canonical_of_ofText {text : String} (h : ofText canvas n text = (.ok p, m)) :
    p.Canonical canvas := by
  obtain ⟨hs, hv, hm, he⟩ := of_ofText h
  refine ⟨hs, hv, hm, fun s hs e hmem => ?_⟩
  obtain ⟨entry, i, -, hkind, rfl⟩ := he s hs e hmem
  exact ElementEntry.canonical_toElement hkind

/-- Reading undoes writing on a canonical project, whatever blanks follow its text. -/
lemma Canonical.ofText_toText (h : p.Canonical canvas) (hr : p.InRange) (n : Nat) (rest : String)
    (hrest : Delimited rest.toList) (ht : tokens rest.toList = []) :
    ∃ q m, ofText canvas n (p.toText ++ rest) = (.ok q, m) ∧ q.anonymous = p.anonymous := by
  have helements : p.scenes.Forall fun e => e.Legible ∧ e.kind.Tagged ∧ ∀ i,
      (e.toEntry.reread.toElement canvas p.metadata.fontSizes i).anonymous = e.anonymous := by
    intro s hs e he
    refine ⟨(hr s hs e he).legible, (h.elements s hs e he).tagged, fun i => ?_⟩
    rw [(h.elements s hs e he).toElement_reread (hr s hs e he)]
    rfl
  obtain ⟨q, m, hq, hm, hv, hs⟩ := Project.ofText_toText canvas n Element.anonymous
    Element.anonymous h.scenes h.vars h.metadata helements rest hrest ht
  exact ⟨q, m, hq, anonymous_eq hm hv hs⟩

/-- Documents give exactly the canonical projects, and a canonical project is read back from its
text up to the names of its elements. -/
theorem ofText_undoes_toText (canvas : Canvas) :
    (∀ text n p m, ofText canvas n text = (.ok p, m) → p.Canonical canvas) ∧
      ∀ (p : Project) n, p.Canonical canvas → p.InRange →
        ∃ q m, ofText canvas n p.toText = (.ok q, m) ∧ q.anonymous = p.anonymous := by
  constructor
  · intro text n p m h
    exact canonical_of_ofText h
  · intro p n h hr
    obtain ⟨q, m, hq, hanon⟩ := h.ofText_toText hr n "" trivial (by simp [tokens])
    rw [String.append_empty] at hq
    exact ⟨q, m, hq, hanon⟩

deriving instance DecidableEq for Except

/-- A document with a button over a menu gives a project that its own text gives again. -/
theorem ofText_undoes_toText_button :
    let text := "\x7b\"variables\":\x7b\"a\":1\x7d,\"scenes\":[\x7b\"name\":\"A\",\"elements\":"
      ++ "[\x7b\"type\":\"menu\"\x7d,\x7b\"type\":\"button\",\"x\":\"7.5\"\x7d]\x7d]\x7d"
    let menu : Element :=
      { id := ⟨"menu_0"⟩, kind := .menu, position := ⟨0, 670⟩, size := .px 1280 50, text := ""
        style := {}, trigger := none }
    let button : Element :=
      { id := ⟨"button_1"⟩, kind := .button, position := ⟨8, 0⟩, size := .px 120 40
        text := "Button", style := ⟨some .black, some .white, some .medium, 100⟩, trigger := none }
    let p : Project := { vars := ⟨[("a", "1")]⟩, scenes := ⟨[⟨"A", [menu, button]⟩]⟩ }
    ofText {} 0 text = (.ok p, 2) ∧ p.Canonical {} ∧ p.InRange ∧
      ∃ q m, ofText {} 5 p.toText = (.ok q, m) ∧ q.anonymous = p.anonymous := by
  intro text menu button p
  obtain ⟨hgives, hback⟩ := ofText_undoes_toText {}
  have htext : ofText {} 0 text = (.ok p, 2) := by decide +kernel
  have hcanonical := hgives text 0 p 2 htext
  have hrange : p.InRange := by decide
  exact ⟨htext, hcanonical, hrange, hback p 5 hcanonical hrange⟩

end Project

end Storyboard
