import Storyboard.Proofs.Document.Canonical
import Storyboard.Proofs.Json.Acceptance

/-!
# Keys of elements in documents

Which keys the object of an element has, and in which order, follows from the element alone: from
its kind, from what there is of its style, and from the kind of its trigger. That holds of every
element, also of one with a style or a text that its kind does not show.
-/

namespace Storyboard

open Json

/-! ### The keys of an element -/

/-- A key where there is something for it. -/
def keyIf (present : Bool) (key : String) : List String :=
  if present then [key] else []

/-- The keys that only triggers of the kind have. -/
def TriggerKind.keys : TriggerKind → List String
  | .changeScene => ["sceneChange"]
  | .setVariable => ["variableChange", "variableChangeValue"]
  | .externalApp => ["externalAppPath", "externalAppReturn"]
  | .playVideo => ["videoPath"]
  | .playImage => ["imagePath"]

/-- The keys for the data of a kind, as far as there is any. -/
def Kind.keys : Kind → List String
  | .collapsedList _ _ => ["command", "listVariable"]
  | .image (some _) => ["image"]
  | .video (some _) => ["videoVariable"]
  | _ => []

def Kind.isImage : Kind → Bool
  | .image _ => true
  | _ => false

/-- The keys of an element in their order. -/
def Element.keys (e : Element) : List String :=
  if e.kind = .menu then ["type", "x", "y", "height"]
  else
    ["type", "x", "y", "width", "height"]
      ++ keyIf e.style.color.isSome "color"
      ++ keyIf (e.kind = .button && e.style.background.isSome) "bgColor"
      ++ keyIf e.style.font.isSome "font"
      ++ ["opacity"]
      ++ e.trigger.elim [] (fun t => "trigger" :: t.kind.keys)
      ++ keyIf (!e.kind.isImage) "text"
      ++ e.kind.keys

/-- A number from zero to one. -/
structure Binary.IsFraction (x : Double) : Prop where
  nonneg : x.negative = false
  finite : x.isFinite = true
  le_one : x.magnitude.value ≤ 1

/-- The value is the object of an element: it has the keys of the element in their order, no keys
of old documents, and a fraction for the opacity of anything but a menu. -/
structure Element.ShownBy (e : Element) (v : Value) : Prop where
  keys : ∃ ms, v = .object ms ∧ Entries.names ms = e.keys
  old : v.member? "triggerTarget" = none ∧ v.member? "triggerValue" = none
  opacity : e.kind ≠ .menu → ∃ x, v.member? "opacity" = some (.number (.float x)) ∧ x.IsFraction

/-- The value lists the scenes of a project, each with the objects of its elements. -/
def Project.ShownBy (p : Project) (v : Value) : Prop :=
  ∃ scenes, v.member? "scenes" = some (.array scenes) ∧
    List.Forall₂ (fun (s : Scene) w => ∃ es, w.member? "elements" = some (.array es) ∧
      List.Forall₂ Element.ShownBy s.elements es) p.scenes.scenes scenes

/-- Every number of the project fits its field, and no two font files have one name. -/
structure Project.Fits (p : Project) : Prop where
  elements : p.InRange
  fontSizes : p.metadata.fontSizes.Bounded
  fontFiles : ∀ files, p.metadata.fontFiles = some files → (Entries.names files).Nodup

/-! ### The keys of an entry -/

namespace ElementField

/-- The fields for the place and the look of an element. -/
def shown : List ElementField :=
  [.kind, .x, .y, .width, .height, .color, .background, .font, .opacity]

/-- The fields for a trigger and its data. -/
def triggers : List ElementField :=
  [.trigger, .sceneChange, .externalAppPath, .externalAppReturn, .variableChange,
    .variableChangeValue, .videoPath, .imagePath]

/-- The fields for the data of kinds. -/
def data : List ElementField :=
  [.command, .listVariable, .image, .videoVariable]

lemma all_eq :
    all = shown ++ triggers ++ [.triggerTarget, .triggerValue] ++ [.text] ++ data := rfl

lemma name_injective {f g : ElementField} (h : f.name = g.name) : f = g := by
  have hf : ElementEntry.fields.find? f.name = some f := ElementEntry.find?_name f
  rw [h] at hf
  exact Option.some.inj (hf.symm.trans (ElementEntry.find?_name g))

end ElementField

namespace ElementEntry

variable {e e' : ElementEntry} {t : Trigger} {k : Kind} {f : ElementField} {fs gs : List ElementField}

/-- The keys that the entry writes for some fields. -/
def keysAmong (e : ElementEntry) (fs : List ElementField) : List String :=
  (fs.filter fun f => (e.written f).isSome).map ElementField.name

lemma names_members (e : ElementEntry) : Entries.names e.members = e.keysAmong ElementField.all := by
  rw [keysAmong, ← map_fst_table, members, Entries.names, List.map_map, List.map_map]
  rfl

lemma keysAmong_append : e.keysAmong (fs ++ gs) = e.keysAmong fs ++ e.keysAmong gs := by
  rw [keysAmong, List.filter_append, List.map_append]
  rfl

lemma keysAmong_congr (h : ∀ f ∈ fs, e.written f = e'.written f) :
    e.keysAmong fs = e'.keysAmong fs := by
  rw [keysAmong, keysAmong, List.filter_congr fun f hf => by rw [h f hf]]

lemma written_writeTo_trigger (h : f ∉ ElementField.triggers) :
    (t.writeTo e).written f = e.written f := by
  cases t <;> cases f <;> first | rfl | exact absurd (by decide) h

lemma written_writeTo_kind (h : f ∉ ElementField.data) :
    (k.writeTo e).written f = e.written f := by
  cases k <;> cases f <;> first | rfl | exact absurd (by decide) h

/-- A trigger writes the keys of its own kind. -/
lemma keysAmong_triggers (h : ∀ f ∈ ElementField.triggers, e.written f = none) :
    (t.writeTo e).keysAmong ElementField.triggers = "trigger" :: t.kind.keys := by
  simp only [ElementField.triggers, List.forall_mem_cons, written, Option.map_eq_none_iff] at h
  obtain ⟨-, hscene, hpath, hreturn, hchange, hvalue, hvideo, himage, -⟩ := h
  cases t <;> simp [keysAmong, ElementField.triggers, Trigger.writeTo, written, ElementField.name,
    TriggerKind.keys, Trigger.kind, hscene, hpath, hreturn, hchange, hvalue, hvideo, himage]

/-- A kind writes the keys of its data. -/
lemma keysAmong_data (h : ∀ f ∈ ElementField.data, e.written f = none) :
    (k.writeTo e).keysAmong ElementField.data = k.keys := by
  simp only [ElementField.data, List.forall_mem_cons, written, Option.map_eq_none_iff] at h
  obtain ⟨hcommand, hlist, himage, hvideo, -⟩ := h
  cases k with
  | image source =>
    cases source <;> simp [keysAmong, ElementField.data, Kind.writeTo, written, ElementField.name,
      Kind.keys, hcommand, hlist, hvideo]
  | video path =>
    cases path <;> simp [keysAmong, ElementField.data, Kind.writeTo, written,
      ElementField.name, Kind.keys, hcommand, hlist, himage]
  | _ => simp [keysAmong, ElementField.data, Kind.writeTo, written, ElementField.name, Kind.keys,
      hcommand, hlist, himage, hvideo]

/-- No key is written twice. -/
lemma names_members_nodup (e : ElementEntry) : (Entries.names e.members).Nodup := by
  rw [names_members, keysAmong]
  exact (all_nodup.filter _).map fun _ _ => ElementField.name_injective

lemma member?_toValue (e : ElementEntry) (f : ElementField) :
    e.toValue.member? f.name = e.written f := by
  show Entries.get? f.name e.members = e.written f
  cases hf : e.written f with
  | none =>
    rw [Entries.get?_eq_none_iff, names_members, keysAmong]
    intro hmem
    obtain ⟨g, hg, hname⟩ := List.mem_map.mp hmem
    obtain rfl := ElementField.name_injective hname
    rw [List.mem_filter, hf] at hg
    cases hg.2
  | some v =>
    apply Entries.get?_of_mem e.names_members_nodup (e := (f.name, v))
    exact List.mem_map.mpr ⟨(f, v), e.mem_table.mpr hf, rfl⟩

end ElementEntry

/-! ### The object of an element -/

namespace Element

variable (e : Element)

lemma keysAmong_shown : e.styledEntry.keysAmong ElementField.shown
    = ["type", "x", "y", "width", "height"] ++ keyIf e.style.color.isSome "color"
      ++ keyIf (e.kind = .button && e.style.background.isSome) "bgColor"
      ++ keyIf e.style.font.isSome "font" ++ ["opacity"] := by
  have hbutton : e.kind.hasBackground = decide (e.kind = .button) := by
    rw [Bool.eq_iff_iff, decide_eq_true_iff, Kind.hasBackground_iff]
  cases hcolor : e.style.color <;> cases hfont : e.style.font <;>
    cases hbackground : e.style.background <;> cases hb : e.kind.hasBackground <;>
    simp [ElementEntry.keysAmong, ElementField.shown, ElementField.name, ElementEntry.written,
      styledEntry, keyIf, hcolor, hfont, hbackground, hb, ← hbutton]

lemma keysAmong_text (h : e.kind.isMenu = false) :
    e.styledEntry.keysAmong [.text] = keyIf (!e.kind.isImage) "text" := by
  have htext : e.kind.hasText = !e.kind.isImage := by
    cases hk : e.kind <;> rw [hk] at h <;> first | rfl | cases h
  cases hi : e.kind.isImage <;>
    simp [ElementEntry.keysAmong, ElementField.name, ElementEntry.written, styledEntry, keyIf,
      htext, hi]

variable {e}

section Item

variable (hm : e.kind.isMenu = false)

include hm

/-- Fields that belong neither to triggers nor to kinds are written by the look of the element. -/
lemma keysAmong_toEntry {fs : List ElementField}
    (h : ∀ f ∈ fs, f ∉ ElementField.triggers ∧ f ∉ ElementField.data) :
    e.toEntry.keysAmong fs = e.styledEntry.keysAmong fs := by
  apply ElementEntry.keysAmong_congr
  intro f hf
  rw [toEntry_of_not_menu hm, ElementEntry.written_writeTo_kind (h f hf).2]
  cases e.trigger with
  | none => rfl
  | some t => exact ElementEntry.written_writeTo_trigger (h f hf).1

lemma keysAmong_toEntry_triggers : e.toEntry.keysAmong ElementField.triggers
    = e.trigger.elim [] fun t => "trigger" :: t.kind.keys := by
  have hnone : ∀ f ∈ ElementField.triggers, e.styledEntry.written f = none := by
    simp [ElementField.triggers, ElementEntry.written, styledEntry]
  have hkind : ∀ f ∈ ElementField.triggers, f ∉ ElementField.data := by decide
  rw [toEntry_of_not_menu hm,
    ElementEntry.keysAmong_congr fun f hf => ElementEntry.written_writeTo_kind (hkind f hf)]
  cases e.trigger with
  | none => rfl
  | some t => exact ElementEntry.keysAmong_triggers hnone

lemma keysAmong_toEntry_data : e.toEntry.keysAmong ElementField.data = e.kind.keys := by
  have hnone : ∀ f ∈ ElementField.data, e.styledEntry.written f = none := by
    simp [ElementField.data, ElementEntry.written, styledEntry]
  have htrigger : ∀ f ∈ ElementField.data, f ∉ ElementField.triggers := by decide
  rw [toEntry_of_not_menu hm]
  apply ElementEntry.keysAmong_data
  intro f hf
  cases e.trigger with
  | none => exact hnone f hf
  | some t => exact (ElementEntry.written_writeTo_trigger (htrigger f hf)).trans (hnone f hf)

lemma written_toEntry_opacity : e.toEntry.written .opacity
    = some (.number (.float (opacityFraction e.style.opacity))) := by
  have hfinite := opacityFraction_isFinite e.style.opacity
  have hstyled : e.styledEntry.written .opacity
      = some (.number (.float (opacityFraction e.style.opacity))) := by
    simp [ElementEntry.written, styledEntry, hfinite]
  rw [toEntry_of_not_menu hm, ElementEntry.written_writeTo_kind (by decide), ← hstyled]
  cases e.trigger with
  | none => rfl
  | some t => exact ElementEntry.written_writeTo_trigger (by decide)

end Item

lemma isMenu_eq_false (h : e.kind ≠ .menu) : e.kind.isMenu = false := by
  rw [← Bool.not_eq_true, Kind.isMenu_iff]
  exact h

/-- Each group of keys is written by one part of the element: its look, its trigger, its text and
the data of its kind. -/
lemma names_toEntry (e : Element) : Entries.names e.toEntry.members = e.keys := by
  rw [ElementEntry.names_members]
  by_cases hkind : e.kind = .menu
  · rw [toEntry_of_menu (Kind.isMenu_iff.mpr hkind), keys, if_pos hkind]
    rfl
  · have hm := isMenu_eq_false hkind
    have hold : e.toEntry.keysAmong [.triggerTarget, .triggerValue] = [] := rfl
    simp only [ElementField.all_eq, ElementEntry.keysAmong_append]
    rw [keysAmong_toEntry hm (by decide), keysAmong_shown, keysAmong_toEntry_triggers hm, hold,
      keysAmong_toEntry hm (by decide), keysAmong_text e hm, keysAmong_toEntry_data hm,
      List.append_nil, keys, if_neg hkind]

lemma isFraction_opacityFraction (k : Nat) : (opacityFraction k).IsFraction := by
  have hle : (opacityFraction k).magnitude.num ≤ (opacityFraction k).magnitude.den := by
    have key : ∀ k < 101, (opacityFraction k).magnitude.num ≤ (opacityFraction k).magnitude.den := by
      decide +kernel
    exact opacityFraction_min k ▸ key (min k 100) (by omega)
  refine ⟨rfl, opacityFraction_isFinite k, ?_⟩
  apply div_le_one_of_le₀
  · exact_mod_cast hle
  · exact Nat.cast_nonneg _

/-- What an element writes is its object. -/
lemma shownBy_toEntry (e : Element) : e.ShownBy e.toEntry.toValue := by
  refine ⟨⟨_, rfl, e.names_toEntry⟩, ⟨?_, ?_⟩, ?_⟩
  · exact e.toEntry.member?_toValue .triggerTarget
  · exact e.toEntry.member?_toValue .triggerValue
  · intro hkind
    refine ⟨_, ?_, isFraction_opacityFraction e.style.opacity⟩
    exact (e.toEntry.member?_toValue .opacity).trans (written_toEntry_opacity (isMenu_eq_false hkind))

end Element

/-! ### The text of a project -/

lemma ElementEntry.fits_toValue (e : ElementEntry) (room : Nat) : e.toValue.Fits (room + 1) := by
  refine ⟨e.names_members_nodup, membersFit_iff.mpr ?_⟩
  intro m hm
  obtain ⟨t, ht, rfl⟩ := List.mem_map.mp hm
  exact e.fits_written (e.mem_table.mp ht) room

lemma SceneEntry.fits_toValue (s : SceneEntry) (room : Nat) : s.toValue.Fits (room + 3) := by
  refine ⟨by simp [Entries.names], trivial, ?_, trivial⟩
  apply itemsFit_iff.mpr
  intro v hv
  obtain ⟨e, -, rfl⟩ := List.mem_map.mp hv
  exact e.fits_toValue room

lemma Document.fits_toValue {doc : Document} {room : Nat}
    (h : (Value.object doc.vars).Fits (room + 4)) : doc.toValue.Fits (room + 5) := by
  refine ⟨by simp [Entries.names], trivial, trivial, trivial, h, ?_, trivial⟩
  cases doc.scenes with
  | none => trivial
  | some ss =>
    apply itemsFit_iff.mpr
    intro v hv
    obtain ⟨s, -, rfl⟩ := List.mem_map.mp hv
    exact s.fits_toValue room

namespace Project

variable {p : Project}

lemma Fits.vars (h : p.Fits) (room : Nat) : (Value.object p.toDocument.vars).Fits (room + 2) :=
  ⟨names_collapse_nodup _, Draft.membersFit_collapse (membersFit_written h.fontFiles room)⟩

lemma readable_vars (h : p.metadata.fontSizes.Bounded) :
    (Value.object p.toDocument.vars).Readable := by
  apply membersReadable_iff.mpr
  intro m hm
  apply membersReadable_iff.mp (readable_written h) m
  exact collapse_subset _ hm

lemma Fits.legible (h : p.Fits) :
    ∀ s ∈ p.scenes.scenes.map Scene.toEntry, ∀ e ∈ s.elements, e.Legible := by
  intro s hs e he
  obtain ⟨scene, hscene, rfl⟩ := List.mem_map.mp hs
  obtain ⟨element, helement, rfl⟩ := List.mem_map.mp he
  exact (h.elements scene hscene element helement).legible.toEntry

/-- The document of a project that fits is read from its text. -/
lemma Fits.read_toText (h : p.Fits) : Reader.value.read p.toText = .ok p.toDocument.toValue := by
  apply read_pretty
  · exact p.toDocument.readable rfl (readable_vars h.fontSizes) h.legible
  · exact Document.fits_toValue (h.vars _)

/-- The document of a project shows its scenes and their elements. -/
lemma shownBy_toDocument (p : Project) : p.ShownBy p.toDocument.toValue := by
  refine ⟨_, rfl, ?_⟩
  rw [List.forall₂_map_right_iff, List.forall₂_map_right_iff]
  apply List.forall₂_same.mpr
  intro s _
  refine ⟨_, rfl, ?_⟩
  rw [Scene.toEntry, List.forall₂_map_right_iff, List.forall₂_map_right_iff]
  apply List.forall₂_same.mpr
  intro e _
  exact e.shownBy_toEntry

/-- The text of a project is that of a value in which every element, well-formed or not, is an
object with exactly the keys of the element, in their order. If the numbers of the project fit
their fields, this value is what is read of the text. -/
theorem toText_shows (p : Project) : ∃ v, p.toText = v.pretty ∧ p.ShownBy v ∧
    (p.Fits → Reader.value.read p.toText = .ok v) :=
  ⟨p.toDocument.toValue, rfl, p.shownBy_toDocument, Fits.read_toText⟩

/-- A label with a background and a trigger, an image with a text, a menu with both and a list: the
keys follow from the kinds, and the text is read. -/
theorem toText_shows_stale :
    let stale : Style := ⟨none, some .white, some .small, 250⟩
    let element (kind : Kind) (trigger : Option Trigger) : Element :=
      { id := ⟨""⟩, kind, position := ⟨-1, 2⟩, size := .auto, text := "A", style := stale, trigger }
    let label := element .label (some (.setVariable "a" "1"))
    let image := element (.image none) (some (.playVideo ""))
    let menu := element .menu (some (.playVideo ""))
    let list := element (.collapsedList "ls" "") none
    let p : Project := { scenes := ⟨[⟨"A", [label, image]⟩, ⟨"A", [menu, list]⟩]⟩ }
    label.keys = ["type", "x", "y", "width", "height", "font", "opacity", "trigger",
        "variableChange", "variableChangeValue", "text"] ∧
      image.keys = ["type", "x", "y", "width", "height", "font", "opacity", "trigger",
        "videoPath"] ∧
      menu.keys = ["type", "x", "y", "height"] ∧
      list.keys = ["type", "x", "y", "width", "height", "font", "opacity", "text", "command",
        "listVariable"] ∧
      p.Fits ∧ ∃ v, Reader.value.read p.toText = .ok v ∧ p.ShownBy v := by
  intro stale element label image menu list p
  obtain ⟨v, -, hshown, hread⟩ := p.toText_shows
  have hfits : p.Fits := by
    refine ⟨by decide, by decide, ?_⟩
    intro files hfiles
    cases hfiles
  exact ⟨rfl, rfl, rfl, rfl, hfits, v, hread hfits, hshown⟩

end Project

end Storyboard
