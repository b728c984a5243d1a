import Storyboard.Proofs.Element.Savable
import Storyboard.Proofs.Session.Origin

/-!
# Sessions that can be saved

Whatever sound actions lead to can be saved: the variables and the metadata are such as documents
have, and every element, live or stored, can be saved. An action is sound when its numbers fit
their fields, a new element has the kind of a tag and font sizes are usable. The variables and the
metadata need no such condition, apart from the font sizes.
-/

namespace Storyboard

/-- A project whose variables and metadata a document can hold. -/
structure Project.Tidy (p : Project) : Prop where
  vars : p.vars.Canonical
  metadata : p.metadata.Tidy

lemma Project.tidy_of_ofText {canvas : Canvas} {n m : Nat} {p : Project} {text : String}
    (h : ofText canvas n text = (.ok p, m)) : p.Tidy := by
  obtain ⟨-, hvars, hmetadata, -⟩ := of_ofText h
  exact ⟨hvars, hmetadata.tidy⟩

/-- Only variables and metadata matter. -/
lemma Project.Tidy.withScenes {p : Project} (h : p.Tidy) (t : SceneTable) :
    ({ p with scenes := t } : Project).Tidy :=
  ⟨h.vars, h.metadata⟩

/-- A project that can be saved. -/
structure Project.Savable (p : Project) : Prop where
  vars : p.vars.Canonical
  metadata : p.metadata.Canonical
  elements : p.scenes.Forall Element.Savable

/-- A configuration whose numbers fit their fields, with usable font sizes. -/
structure SessionConfig.Sound (c : SessionConfig) : Prop where
  canvas : c.canvas.InRange
  fontSizes : c.fontSizes.Usable
  floor : InRange c.minElementSize

/-- Every number of the edit fits its field. -/
def Edit.InRange : Edit → Prop
  | .move p => p.InRange
  | .resize w h => Storyboard.InRange w ∧ Storyboard.InRange h
  | _ => True

lemma Edit.InRange.moderate {edit : Edit} (h : edit.InRange) : edit.Moderate := by
  cases edit with
  | move p => exact ⟨h.1.within.mono (by decide), h.2.within.mono (by decide)⟩
  | resize w height => exact ⟨h.1.within.mono (by decide), h.2.within.mono (by decide)⟩
  | _ => trivial

/-- An action whose numbers fit their fields, whose new element has the kind of a tag and whose
font sizes are usable. -/
def Action.Sound : Action → Prop
  | .addElement kind p => (∃ tag, tag ≠ "" ∧ kind = Kind.ofTag tag) ∧ p.InRange
  | .edit _ change => change.InRange
  | .updateGesture g p => g.InRange ∧ p.InRange
  | .setFontSizes sizes => sizes.Usable
  | .setCanvas canvas => canvas.InRange
  | _ => True

lemma Element.Incoming.savable {canvas : Canvas} {e : Element} (h : e.Incoming canvas)
    (hc : canvas.InRange) : e.Savable := by
  cases h with
  | menu fonts n =>
    have hkind : Kind.menu.Tagged := ⟨"menu", by decide, rfl⟩
    have hposition : ({} : Position).InRange := ⟨by decide, by decide⟩
    exact (storable_create n hkind hposition).fit hc
  | entry hr hk c fonts n => exact (ElementEntry.storable_toElement hr hk).fit hc

namespace Session

variable {s s' : Session} {n m : Nat} {a : Action} {o : Outcome} {e : Element} {canvas : Canvas}
  {admits : Action → Prop}

/-! ### Variables and metadata -/

lemma tidy_blank (config : SessionConfig) : (blankProject config).Tidy :=
  ⟨VariableStore.canonical_empty, by simp [blankProject], by simp [blankProject]⟩

lemma Step.tidy (hs : s.project.Tidy) (h : Step s n a o s' m) : s'.project.Tidy := by
  obtain ⟨hvars, hmetadata⟩ := hs
  cases h with
  | addVariable h => exact ⟨hvars.append h "", hmetadata⟩
  | editVariable value h =>
    refine ⟨hvars.insert (hvars.unreserved _ ?_) value, hmetadata⟩
    simpa [VariableStore.contains] using h
  | renameVariable h₁ h₂ => exact ⟨hvars.rename h₂ _, hmetadata⟩
  | deleteVariable h => exact ⟨hvars.erase _, hmetadata⟩
  | setMetadata title author description =>
    exact ⟨hvars, hmetadata.background, hmetadata.fontFiles⟩
  | setBackground background =>
    refine ⟨hvars, ?_, hmetadata.fontFiles⟩
    simp [Session.setBackground, Option.filter_eq_some_iff]
  | setFontSizes sizes => exact ⟨hvars, hmetadata.background, hmetadata.fontFiles⟩
  | reset => exact (tidy_blank s.config).withScenes _
  | importText h => exact (Project.tidy_of_ofText h).withScenes _
  | _ => exact ⟨hvars, hmetadata⟩

/-- The variables and the metadata of a session are such as a document can hold. -/
theorem Reachable.tidy (h : Reachable admits s n) : s.project.Tidy := by
  refine h.invariant (P := fun s => s.project.Tidy) ?_ ?_ ?_ fun hs _ h => h.tidy hs
  · intro config n
    rcases new_cases config n with h | h <;> rw [h] <;> exact (tidy_blank config).withScenes _
  · intro config canvas n m text p h
    exact (Project.tidy_of_ofText h).withScenes _
  · intro t canvas n m text p ht h
    exact (Project.tidy_of_ofText h).withScenes _

/-! ### Sessions that can be saved -/

/-- A session that can be saved. -/
structure Savable (s : Session) : Prop where
  consistent : s.Consistent
  project : s.project.Savable
  live : ∀ e ∈ s.live, e.Savable
  canvas : s.canvas.InRange

lemma Savable.whole (h : s.Savable) : s.whole.Savable :=
  ⟨h.project.vars, h.project.metadata, h.project.elements.modify fun _ _ => h.live⟩

lemma Savable.tidy (h : s.Savable) : s.project.Tidy :=
  ⟨h.project.vars, h.project.metadata.tidy⟩

lemma Savable.elements (h : s.Savable) : ∀ e, s.Holds e → e.Savable :=
  forall_holds h.live h.project.elements

/-- What a session needs to be saved, each part kept by steps for a reason of its own. -/
lemma savable_of_parts (hs : s.Consistent) (ht : s.project.Tidy) (hf : s.fonts.Usable)
    (hc : s.canvas.InRange) (he : ∀ e, s.Holds e → e.Savable) : s.Savable :=
  ⟨hs, ⟨ht.vars, ⟨ht.metadata.background, hf, ht.metadata.fontFiles⟩,
    fun scene hscene e hmem => he e (.inr ⟨scene, hscene, hmem⟩)⟩,
    fun e hmem => he e (.inl hmem), hc⟩

lemma Step.canvas_inRange (hs : s.canvas.InRange) (ha : a.Sound) (h : Step s n a o s' m) :
    s'.canvas.InRange := by
  cases h with
  | setCanvas canvas => exact ha
  | _ => exact hs

lemma Step.fonts_usable (hs : s.fonts.Usable) (hc : s.config.fontSizes.Usable)
    (ha : ∀ sizes, a = .setFontSizes sizes → sizes.Usable) (h : Step s n a o s' m) :
    s'.fonts.Usable := by
  cases h with
  | setFontSizes sizes => exact ha sizes rfl
  | reset => exact hc
  | importText h =>
    obtain ⟨-, -, hmetadata, -⟩ := Project.of_ofText h
    exact hmetadata.fontSizes
  | _ => exact hs

lemma Origin.savable (hs : s.Savable) (hc : s.config.Sound) (ha : a.Sound)
    (h : s.Origin a canvas e) : e.Savable := by
  cases h with
  | held h => exact hs.elements e h
  | incoming h => exact h.savable hs.canvas
  | created n kind p =>
    obtain ⟨⟨tag, htag, rfl⟩, hp⟩ := ha
    exact (Element.storable_create n (Kind.tagged_ofTag htag) hp).fit hs.canvas
  | copied h n => exact (hs.elements _ h).renumber n
  | edited h id edit =>
    exact (hs.elements _ h).apply ⟨hs.canvas, hc.floor⟩ (Edit.InRange.moderate ha)
  | dragged h g p => exact (hs.elements _ h).apply ⟨hs.canvas, hc.floor⟩ (ha.1.moderate ha.2)
  | fitted h canvas => exact (hs.elements _ h).storable.fit ha

/-- A step by a sound action keeps a session such that it can be saved. -/
theorem Savable.step (hs : s.Savable) (hc : s.config.Sound) (ha : a.Sound)
    (h : Step s n a o s' m) : s'.Savable :=
  have hfonts : ∀ sizes, a = .setFontSizes sizes → sizes.Usable := by
    rintro sizes rfl
    exact ha
  savable_of_parts (hs.consistent.step h) (h.tidy hs.tidy)
    (h.fonts_usable hs.project.metadata.fontSizes hc.fontSizes hfonts)
    (h.canvas_inRange hs.canvas ha) fun e he => (h.origin e he).savable hs hc ha

lemma config_new (config : SessionConfig) (n : Nat) : (Session.new config n).1.config = config := by
  rcases new_cases config n with h | h <;> rw [h] <;> rfl

lemma savable_new {config : SessionConfig} (hc : config.Sound) (n : Nat) :
    (Session.new config n).1.Savable := by
  have hnew : Reachable Action.Sound (Session.new config n).1 (Session.new config n).2 :=
    .new config n
  have hfonts : (Session.new config n).1.fonts.Usable := by
    rcases new_cases config n with h | h <;> rw [h] <;> exact hc.fontSizes
  have hcanvas : (Session.new config n).1.canvas.InRange := by
    rcases new_cases config n with h | h <;> rw [h] <;> exact hc.canvas
  exact savable_of_parts hnew.consistent hnew.tidy hfonts hcanvas
    fun e he => (incoming_new config n e he).savable hcanvas

lemma savable_replaceProject (hc : s.canvas.InRange) {p : Project} {text : String}
    (h : Project.ofText canvas n text = (.ok p, m)) : (s.replaceProject p).Savable := by
  obtain ⟨-, -, hmetadata, -⟩ := Project.of_ofText h
  exact savable_of_parts (consistent_replaceProject (valid_of_ofText h))
    ((Project.tidy_of_ofText h).withScenes _) hmetadata.fontSizes hc
    fun e he => (incoming_replaceProject h e he).savable hc

/-- A session that sound actions lead to can be saved, if its configuration is sound. -/
theorem Reachable.savable (h : Reachable Action.Sound s n) : s.config.Sound → s.Savable := by
  refine h.invariant (P := fun s => s.config.Sound → s.Savable) ?_ ?_ ?_ ?_
  · intro config n hc
    rw [config_new] at hc
    exact savable_new hc n
  · intro config canvas n m text p h hc
    exact savable_replaceProject (s := ⟨{}, "", [], config.canvas, config⟩) hc.canvas h
  · intro t canvas n m text p ht h hc
    exact savable_replaceProject (ht hc).canvas h
  · intro t t' n m a o ht ha h hc
    rw [h.config_eq] at hc
    exact (ht hc).step hc ha h

end Session

end Storyboard
