import Mathlib
import Storyboard.Proofs.Document.Project
import Storyboard.Proofs.Json.Acceptance

/-!
# The shape of documents

Which texts give a project, and what scenes and elements it has, can be told from the values of
the texts. Few things are asked for: a list of scenes, lists of elements, and sides that are
numbers, text or null. Everything else may be missing or of any shape.
-/

namespace Storyboard

open Json

/-! ### Values as documents -/

namespace Json.Value

/-- The text under a key. A number or a truth value is its text, and nothing else has one. -/
def textAt (key : String) (v : Value) : String :=
  match v.member? key with
  | some (.string s) => s
  | some (.number n) => .ofList n.chars
  | some (.bool b) => if b then "true" else "false"
  | _ => ""

/-- The items of the array under a key; none if there is no array. -/
def itemsAt (key : String) (v : Value) : List Value :=
  match v.member? key with
  | some (.array vs) => vs
  | _ => []

/-- A value that can stand for a side. -/
def IsSide : Value → Prop
  | .null | .number _ | .string _ => True
  | .bool _ | .array _ | .object _ => False

/-- A value that can stand for an element. -/
structure IsElement (v : Value) : Prop where
  object : v.IsObject
  width : ∀ w, v.member? "width" = some w → w.IsSide
  height : ∀ w, v.member? "height" = some w → w.IsSide

/-- A value that can stand for a scene. -/
structure IsScene (v : Value) : Prop where
  object : v.IsObject
  elements : ∀ w, v.member? "elements" = some w → ∃ vs, w = .array vs ∧ ∀ x ∈ vs, x.IsElement

/-- A value that can stand for a document, with or without a list of scenes. -/
structure IsDocument (v : Value) : Prop where
  object : v.IsObject
  scenes : ∀ w, v.member? "scenes" = some w →
    w = .null ∨ ∃ ss, w = .array ss ∧ ∀ s ∈ ss, s.IsScene

/-- The document has no list of scenes. -/
def Unlisted (v : Value) : Prop :=
  v.member? "scenes" = none ∨ v.member? "scenes" = some .null

/-- The document has these scenes, and each can be one. -/
def Lists (v : Value) (ss : List Value) : Prop :=
  v.member? "scenes" = some (.array ss) ∧ ∀ s ∈ ss, s.IsScene

variable {v w : Value} {key : String} {ss : List Value}

lemma Unlisted.not_lists (h : v.Unlisted) (ss : List Value) : ¬ v.Lists ss := by
  rintro ⟨hss, -⟩
  rcases h with h | h <;> cases h.symm.trans hss

lemma Lists.not_unlisted (h : v.Lists ss) : ¬ v.Unlisted :=
  fun hu => hu.not_lists ss h

lemma Lists.eq_iff (h : v.Lists ss) (ss' : List Value) : v.Lists ss' ↔ ss' = ss := by
  constructor
  · intro h'
    exact Value.array.inj (Option.some.inj (h'.1.symm.trans h.1))
  · rintro rfl
    exact h

lemma isDocument_iff : v.IsDocument ↔ v.IsObject ∧ (v.Unlisted ∨ ∃ ss, v.Lists ss) := by
  constructor
  · rintro ⟨hobject, hscenes⟩
    refine ⟨hobject, ?_⟩
    cases hw : v.member? "scenes" with
    | none => exact .inl (.inl hw)
    | some w =>
      rcases hscenes w hw with rfl | ⟨ss, rfl, hss⟩
      · exact .inl (.inr hw)
      · exact .inr ⟨ss, hw, hss⟩
  · rintro ⟨hobject, hu | ⟨ss, hss⟩⟩
    · refine ⟨hobject, fun w hw => ?_⟩
      rcases hu with hu | hu
      · cases hu.symm.trans hw
      · exact .inl (Option.some.inj (hw.symm.trans hu))
    · refine ⟨hobject, fun w hw => .inr ⟨ss, ?_, hss.2⟩⟩
      exact Option.some.inj (hw.symm.trans hss.1)

/-- The types of a scene's elements that have one. -/
def types (v : Value) : List String :=
  ((v.itemsAt "elements").map (textAt "type")).filter (· ≠ "")

lemma textAt_of_none (h : v.member? key = none) : v.textAt key = "" := by
  rw [textAt, h]

lemma textAt_of_some (h : v.member? key = some w) : v.textAt key = Document.text w := by
  rw [textAt, h]
  cases w <;> rfl

lemma itemsAt_of_none (h : v.member? key = none) : v.itemsAt key = [] := by
  rw [itemsAt, h]

lemma itemsAt_of_some {vs : List Value} (h : v.member? key = some (.array vs)) :
    v.itemsAt key = vs := by
  rw [itemsAt, h]

lemma isNone_dimension? (v : Value) : (Document.dimension? v).isNone = true ↔ ¬ v.IsSide := by
  cases v <;> simp [Document.dimension?, IsSide]

end Json.Value

/-! ### Reading an element -/

namespace ElementEntry

lemma accepts_field (f : ElementField) :
    (fields.read f).Accepts (fun _ => True) (fun v => f.isDimension = true → v.IsSide) Eq := by
  have hread {room : Nat} {d : Draft} {v a : Value} (hv : Draft.value room d = .ok v) :
      fields.read f room d = .ok a ↔ (f.isDimension = true → v.IsSide) ∧ v = a := by
    have hbad : (f.isDimension && (Document.dimension? v).isNone) = true
        ↔ ¬ (f.isDimension = true → v.IsSide) := by
      rw [Bool.and_eq_true, Value.isNone_dimension?, Classical.not_imp]
    simp only [fields, ElementField.read, Reader.value, hv, bind, Except.bind]
    split_ifs with hf
    · exact iff_of_false (by simp) fun h => hbad.mp hf h.1
    · rw [and_iff_right (not_not.mp (mt hbad.mpr hf))]
      exact ⟨Except.ok.inj, congrArg Except.ok⟩
  constructor
  · intro room d v _ hv
    simp only [hread hv, exists_and_left, exists_eq', and_true]
  · intro room d v a _ hv ha
    exact ((hread hv).mp ha).2

lemma accepts_reader :
    reader.Accepts fields.Plain Value.IsElement fun v e => e.kind = v.textAt "type" := by
  refine (Fields.accepts_table accepts_field find?_name).map ?_ ?_ ?_
  · exact fun d hd => ⟨hd, fun _ _ _ => trivial⟩
  · intro v
    constructor
    · rintro ⟨hobject, hside⟩
      exact ⟨hobject, fun w hw => hside .width w hw rfl, fun w hw => hside .height w hw rfl⟩
    · rintro ⟨hobject, hwidth, hheight⟩
      refine ⟨hobject, fun f w hw hf => ?_⟩
      cases f with
      | width => exact hwidth w hw
      | height => exact hheight w hw
      | _ => cases hf
  · rintro v t ⟨-, hrel⟩
    have htable : (ofTable t).kind = ((t.lookup .kind).map Document.text).getD "" := rfl
    rcases rel_cases (hrel .kind) with ⟨hv, ht⟩ | ⟨w, _, hv, ht, rfl⟩
    · rw [htable, ht]
      exact (Value.textAt_of_none hv).symm
    · rw [htable, ht]
      exact (Value.textAt_of_some hv).symm

end ElementEntry

/-! ### Reading a scene -/

namespace SceneEntry

/-- No element is written as an array, and no known key of the scene or of an element is there
twice. -/
def Plain (d : Draft) : Prop :=
  fields.Plain d ∧ ∀ es ∈ d.under "elements", ∀ e ∈ es.items, ElementEntry.fields.Plain e

instance (d : Draft) : Decidable (Plain d) :=
  inferInstanceAs (Decidable (_ ∧ _))

/-- The part of `Plain` that is about the elements. -/
def PlainField : Field → Draft → Prop
  | .name, _ => True
  | .elements, d => ∀ e ∈ d.items, ElementEntry.fields.Plain e

/-- What may stand in a field of a scene. -/
def Takes : Field → Value → Prop
  | .name, _ => True
  | .elements, v => ∃ vs, v = .array vs ∧ ∀ x ∈ vs, x.IsElement

/-- How a value and the part of a scene that is read of it belong together. -/
def Gives : Field → Value → Part → Prop
  | .name, v, p => p = .name (Document.text v)
  | .elements, v, p => ∃ es vs, p = .elements es ∧ v = .array vs ∧
      List.Forall₂ (fun x e => e.kind = x.textAt "type") vs es

/-- The scene has the name of the value, and its elements have their types. -/
structure Matches (v : Value) (s : SceneEntry) : Prop where
  name : s.name = v.textAt "name"
  kinds : s.elements.map (·.kind) = (v.itemsAt "elements").map (Value.textAt "type")

lemma accepts_field (f : Field) :
    (fields.read f).Accepts (PlainField f) (Takes f) (Gives f) := by
  cases f with
  | name => exact Reader.accepts_value.map (fun _ _ => trivial) (fun _ => Iff.rfl) (by simp [Gives])
  | elements =>
    refine ElementEntry.accepts_reader.list.map (fun _ h => h) (fun _ => Iff.rfl) ?_
    rintro v es ⟨vs, hv, h⟩
    exact ⟨es, vs, rfl, hv, h⟩

section Table

variable {v : Value} {t : List (Field × Part)} (hnodup : (t.map (·.1)).Nodup)
  (hrel : ∀ f, Option.Rel (Gives f) (v.member? (fields.name f)) (t.lookup f))

include hnodup hrel

lemma name_of_table : (t.foldl (fun s x => s.take x.2) ({} : SceneEntry)).name
    = v.textAt "name" := by
  have hother : ∀ f w p, f ≠ .name → Gives f w p → ∀ s : SceneEntry, (s.take p).name = s.name := by
    rintro (_ | _) w p hne hp s
    · exact absurd rfl hne
    · obtain ⟨es, -, rfl, -⟩ := hp
      rfl
  rcases foldl_rel hnodup hrel hother {} with ⟨hv, heq⟩ | ⟨w, p, s, hv, rfl, heq⟩
  · exact heq.trans (Value.textAt_of_none hv).symm
  · exact heq.trans (Value.textAt_of_some hv).symm

lemma kinds_of_table : (t.foldl (fun s x => s.take x.2) ({} : SceneEntry)).elements.map (·.kind)
    = (v.itemsAt "elements").map (Value.textAt "type") := by
  have hother : ∀ f w p, f ≠ .elements → Gives f w p →
      ∀ s : SceneEntry, (s.take p).elements = s.elements := by
    rintro (_ | _) w p hne hp s
    · obtain rfl := hp
      rfl
    · exact absurd rfl hne
  rcases foldl_rel hnodup hrel hother {} with ⟨hv, heq⟩ | ⟨_, _, s, hv, ⟨es, vs, rfl, rfl, h⟩, heq⟩
  · have hitems : v.itemsAt "elements" = [] := Value.itemsAt_of_none hv
    rw [heq, hitems]
    rfl
  · have hitems : v.itemsAt "elements" = vs := Value.itemsAt_of_some hv
    rw [heq, hitems]
    exact map_eq_of_forall₂ h

end Table

lemma accepts_reader : reader.Accepts Plain Value.IsScene Matches := by
  refine (Fields.accepts_table accepts_field find?_name).map ?_ ?_ ?_
  · rintro d ⟨hplain, helements⟩
    refine ⟨hplain, fun f x hx => ?_⟩
    cases f with
    | name => trivial
    | elements => exact helements x hx
  · intro v
    constructor
    · rintro ⟨hobject, h⟩
      exact ⟨hobject, fun w hw => h .elements w hw⟩
    · rintro ⟨hobject, h⟩
      refine ⟨hobject, fun f w hw => ?_⟩
      cases f with
      | name => trivial
      | elements => exact h w hw
  · rintro v t ⟨hnodup, hrel⟩
    exact ⟨name_of_table hnodup hrel, kinds_of_table hnodup hrel⟩

lemma Matches.types {v : Value} {s : SceneEntry} (h : Matches v s) :
    s.typed.map (·.kind) = v.types := by
  rw [Value.types, ← h.kinds, typed, List.filter_map]
  rfl

end SceneEntry

/-! ### Reading a document -/

namespace Document

/-- No scene or element is written as an array, and no known key of the document, of a scene or of
an element is there twice. -/
def Plain (d : Draft) : Prop :=
  fields.Plain d ∧ ∀ ss ∈ d.under "scenes", ∀ s ∈ ss.items, SceneEntry.Plain s

instance (d : Draft) : Decidable (Plain d) :=
  inferInstanceAs (Decidable (_ ∧ _))

/-- The part of `Plain` that is about the scenes. -/
def PlainField : Field → Draft → Prop
  | .scenes, d => ∀ s ∈ d.items, SceneEntry.Plain s
  | _, _ => True

/-- What may stand in a field of a document. -/
def Takes : Field → Value → Prop
  | .scenes, v => v = .null ∨ ∃ vs, v = .array vs ∧ ∀ x ∈ vs, x.IsScene
  | _, _ => True

/-- How a value and the part of a document that is read of it belong together, as far as scenes
are concerned. -/
def Gives : Field → Value → Part → Prop
  | .scenes, v, p => ∃ o, p = .scenes o ∧ (v = .null → o = none) ∧
      (v ≠ .null → ∃ ss, o = some ss ∧ ∃ vs, v = .array vs ∧
        List.Forall₂ SceneEntry.Matches vs ss)
  | _, _, p => ∀ doc : Document, (doc.take p).scenes = doc.scenes

/-- The document has the scenes of the value. -/
structure Matches (v : Value) (doc : Document) : Prop where
  unlisted : v.Unlisted → doc.scenes = none
  listed : ∀ vs, v.member? "scenes" = some (.array vs) →
    ∃ ss, doc.scenes = some ss ∧ List.Forall₂ SceneEntry.Matches vs ss

lemma accepts_field (f : Field) :
    (fields.read f).Accepts (PlainField f) (Takes f) (Gives f) := by
  cases f with
  | scenes =>
    refine SceneEntry.accepts_reader.list.option.map (fun _ h => h) (fun _ => Iff.rfl) ?_
    exact fun v o h => ⟨o, rfl, h⟩
  | _ =>
    exact Reader.accepts_value.map (fun _ _ => trivial) (fun _ => Iff.rfl) fun _ _ _ _ => rfl

lemma matches_of_table {v : Value} {t : List (Field × Part)} (hnodup : (t.map (·.1)).Nodup)
    (hrel : ∀ f, Option.Rel (Gives f) (v.member? (fields.name f)) (t.lookup f)) :
    Matches v (t.foldl (fun doc x => doc.take x.2) {}) := by
  have hother : ∀ f w p, f ≠ .scenes → Gives f w p →
      ∀ doc : Document, (doc.take p).scenes = doc.scenes := by
    intro f w p hne hp doc
    cases f with
    | scenes => exact absurd rfl hne
    | _ => exact hp doc
  rcases foldl_rel hnodup hrel hother {} with
    ⟨hv, heq⟩ | ⟨w, _, s, hv, ⟨o, rfl, hnull, hlist⟩, heq⟩
  · refine ⟨fun _ => heq, fun vs hvs => ?_⟩
    cases hv.symm.trans hvs
  · constructor
    · rintro (hnone | hw)
      · cases hv.symm.trans hnone
      · obtain rfl := Option.some.inj (hv.symm.trans hw)
        exact heq.trans (hnull rfl)
    · intro vs hvs
      obtain rfl := Option.some.inj (hv.symm.trans hvs)
      obtain ⟨ss, rfl, _, heq', h⟩ := hlist (by simp)
      obtain rfl := Value.array.inj heq'
      exact ⟨ss, heq, h⟩

lemma accepts_reader : reader.Accepts Plain Value.IsDocument Matches := by
  refine (Fields.accepts_table accepts_field find?_name).map ?_ ?_ ?_
  · rintro d ⟨hplain, hscenes⟩
    refine ⟨hplain, fun f x hx => ?_⟩
    cases f with
    | scenes => exact hscenes x hx
    | _ => trivial
  · intro v
    constructor
    · rintro ⟨hobject, h⟩
      exact ⟨hobject, fun w hw => h .scenes w hw⟩
    · rintro ⟨hobject, h⟩
      refine ⟨hobject, fun f w hw => ?_⟩
      cases f with
      | scenes => exact h w hw
      | _ => trivial
  · rintro v t ⟨hnodup, hrel⟩
    exact matches_of_table hnodup hrel

end Document

/-! ### Names and kinds -/

namespace ElementEntry

variable (canvas : Canvas) (fonts : FontSizes)

lemma bare_kind_toElement (e : ElementEntry) (n : Nat) :
    (e.toElement canvas fonts n).kind.bare = Kind.ofTag e.kind := by
  rw [← bare_toKind]
  cases h : e.toKind.isMenu with
  | true => rw [toElement_of_menu canvas fonts n h, Kind.isMenu_iff.mp h]
  | false => rw [toElement_of_not_menu canvas fonts n h]

end ElementEntry

namespace SceneEntry

variable {canvas : Canvas} {fonts : FontSizes}

/-- What elements take over from their entries whatever their numbers shows in the same places. -/
lemma map_toScenes {β : Type} {f : Element → β} {g : ElementEntry → β}
    (h : ∀ e n, f (ElementEntry.toElement canvas fonts n e) = g e) (n : Nat)
    (ss : List SceneEntry) :
    (toScenes canvas fonts n ss).1.map (fun s => (s.name, s.elements.map f))
      = ss.map fun s => (s.name, s.typed.map g) := by
  induction ss generalizing n with
  | nil => rfl
  | cons s ss ih =>
    have hfirst : (s.typed.zipIdx n).map (fun x => g x.1) = s.typed.map g := by
      conv_rhs => rw [← List.zipIdx_map_fst n s.typed, List.map_map]
      rfl
    simp [toScenes, toScene, ih, Function.comp_def, h, hfirst]

end SceneEntry

/-! ### Reading a project -/

namespace Project

/-- The project has a scene for each of these values, and in it an element of its type for each
typed one. Where there are no values there is one scene without elements. -/
def Shows (p : Project) (vs : List Value) : Prop :=
  if vs = [] then p.scenes = .initial
  else p.scenes.scenes.map (fun s => (s.name, s.elements.map (·.kind.bare)))
    = vs.map fun v => (v.textAt "name", v.types.map Kind.ofTag)

variable {canvas : Canvas} {n : Nat} {text : String} {v : Value} {vs : List Value}

/-- What reading a text gives, as far as its value tells. -/
inductive Reading (v : Value) : Except DocumentError Project → Prop
  | missing (h : v.Unlisted) : Reading v (.error .missingScenes)
  | duplicate {vs : List Value} (h : v.Lists vs) (hn : ¬ (vs.map (Value.textAt "name")).Nodup) :
      Reading v (.error (.duplicateScenes (vs.map (Value.textAt "name"))))
  | shown {vs : List Value} {p : Project} (h : v.Lists vs)
      (hn : (vs.map (Value.textAt "name")).Nodup) (hp : p.Shows vs) : Reading v (.ok p)
  | refused {e : Json.Error} (hu : ¬ v.Unlisted) (hl : ∀ vs, ¬ v.Lists vs) :
      Reading v (.error (.json e))

/-- The project of a document shows the values that its scenes are read of. -/
lemma shows_of_toProject {doc : Document} {ss : List SceneEntry} {p : Project} {m : Nat}
    (h : doc.toProject canvas n = (.ok p, m)) (hss : doc.scenes = some ss)
    (hvs : List.Forall₂ SceneEntry.Matches vs ss) : p.Shows vs := by
  obtain ⟨_, hss', -, scenes, hs, rfl⟩ := Document.toProject_eq_ok.mp h
  obtain rfl := Option.some.inj (hss.symm.trans hss')
  have hentries : ss.map (fun s => (s.name, s.typed.map fun e => Kind.ofTag e.kind))
      = vs.map fun v => (v.textAt "name", v.types.map Kind.ofTag) := by
    refine map_eq_of_forall₂ (hvs.imp fun v s hs => ?_)
    rw [hs.name, ← hs.types, List.map_map]
    rfl
  have hshown : scenes.map (fun s => (s.name, s.elements.map fun e => e.kind.bare))
      = vs.map fun v => (v.textAt "name", v.types.map Kind.ofTag) := by
    have hmap := SceneEntry.map_toScenes (f := fun e => e.kind.bare)
      (ElementEntry.bare_kind_toElement canvas doc.metadata.fontSizes) n ss
    rw [hs] at hmap
    exact hmap.trans hentries
  have hnil : scenes = [] ↔ vs = [] := by
    rw [← List.map_eq_nil_iff, hshown, List.map_eq_nil_iff]
  by_cases hvs : vs = []
  · rw [Shows, if_pos hvs]
    exact if_pos (hnil.mpr hvs)
  · rw [Shows, if_neg hvs]
    simpa only [if_neg (mt hnil.mp hvs)] using hshown

lemma reading (hread : Reader.value.read text = .ok v) (hobject : v.IsObject)
    (hplain : Document.Plain (Draft.ofText text).1) (canvas : Canvas) (n : Nat) :
    Reading v (ofText canvas n text).1 := by
  obtain ⟨htakes, hgives⟩ := Document.accepts_reader.read hplain hread
  rw [Value.isDocument_iff, and_iff_right hobject] at htakes
  by_cases hu : v.Unlisted
  · obtain ⟨doc, hdoc⟩ := htakes.mpr (.inl hu)
    have hscenes := (hgives doc hdoc).unlisted hu
    rw [(ofText_eq_error canvas n).mpr (.document hdoc (.missingScenes hscenes))]
    exact .missing hu
  by_cases hl : ∃ vs, v.Lists vs
  · obtain ⟨doc, hdoc⟩ := htakes.mpr (.inr hl)
    obtain ⟨vs, hvs⟩ := hl
    obtain ⟨ss, hss, hmatch⟩ := (hgives doc hdoc).listed vs hvs.1
    have hnames : ss.map (·.name) = vs.map (Value.textAt "name") :=
      map_eq_of_forall₂ (hmatch.imp fun _ _ h => h.name)
    by_cases hn : (vs.map (Value.textAt "name")).Nodup
    · rcases hs : SceneEntry.toScenes canvas doc.metadata.fontSizes n ss with ⟨scenes, m⟩
      have hp := Document.toProject_eq_ok.mpr ⟨ss, hss, hnames ▸ hn, scenes, hs, rfl⟩
      have heq : ofText canvas n text = doc.toProject canvas n := by
        rw [ofText, show Document.ofText text = .ok doc from hdoc]
      rw [heq, hp]
      exact .shown hvs hn (shows_of_toProject hp hss hmatch)
    · have hd : doc.Faulty (.duplicateScenes (ss.map (·.name))) :=
        .duplicateScenes hss (hnames ▸ hn)
      rw [(ofText_eq_error canvas n).mpr (.document hdoc hd), hnames]
      exact .duplicate hvs hn
  · cases hdoc : Document.ofText text with
    | ok doc => exact absurd (htakes.mp ⟨doc, hdoc⟩) (by simp [hu, hl])
    | error e =>
      rw [(ofText_eq_error canvas n).mpr (.json hdoc)]
      exact .refused hu fun vs hvs => hl ⟨vs, hvs⟩

/-- Whether an object is read as a project, and which scenes and elements it has, shows in its
value: there is a list of objects as scenes, whatever elements they have are listed as objects
with sides that can be ones, and no two scenes have the same name. -/
theorem ofText_shape {ms : List (String × Value)}
    (hread : Reader.value.read text = .ok (.object ms))
    (hplain : Document.Plain (Draft.ofText text).1) (canvas : Canvas) (n : Nat) :
    ((∃ p, (ofText canvas n text).1 = .ok p) ↔
        ∃ vs, (Value.object ms).Lists vs ∧ (vs.map (Value.textAt "name")).Nodup) ∧
      ((ofText canvas n text).1 = .error .missingScenes ↔ (Value.object ms).Unlisted) ∧
      (∀ names, (ofText canvas n text).1 = .error (.duplicateScenes names) ↔
        ∃ vs, (Value.object ms).Lists vs ∧ vs.map (Value.textAt "name") = names ∧
          ¬ names.Nodup) ∧
      ∀ p, (ofText canvas n text).1 = .ok p →
        ∃ vs, (Value.object ms).Lists vs ∧ p.Shows vs := by
  have h := reading hread trivial hplain canvas n
  generalize (ofText canvas n text).1 = r at h
  cases h with
  | missing hu => simp [hu, hu.not_lists]
  | duplicate hl hn => simp [hl.eq_iff, hl.not_unlisted, hn]
  | shown hl hn hp => simp [hl.eq_iff, hl.not_unlisted, hn, hp]
  | refused hu hl => simp [hu, hl]

/-- A document with names that are no text, an element without a type, values that mean nothing,
and keys that no document has, among them repeated ones. -/
theorem ofText_shape_odd_fields :
    let text := "\x7b\"scenes\":[\x7b\"name\":1,\"elements\":["
      ++ "\x7b\"type\":\"label\",\"width\":\"wide\",\"x\":[],\"z\":0,\"z\":1\x7d,"
      ++ "\x7b\"y\":true\x7d,\x7b\"type\":5\x7d]\x7d,\x7b\"name\":true\x7d],"
      ++ "\"title\":\x7b\x7d,\"odd\":0,\"odd\":null\x7d"
    let label := Value.object
      [("type", .string "label"), ("width", .string "wide"), ("x", .array []), ("z", .int 1)]
    let scenes : List Value :=
      [.object [("name", .int 1), ("elements", .array
          [label, .object [("y", .bool true)], .object [("type", .int 5)]])],
        .object [("name", .bool true)]]
    Reader.value.read text = .ok (.object
        [("scenes", .array scenes), ("title", .object []), ("odd", .null)]) ∧
      Document.Plain (Draft.ofText text).1 ∧
      ∃ p, (ofText {} 0 text).1 = .ok p ∧
        p.scenes.scenes.map (fun s => (s.name, s.elements.map (·.kind.bare)))
          = [("1", [.label, .other "5"]), ("true", [])] := by
  intro text label scenes
  have hread : Reader.value.read text = .ok (.object
      [("scenes", .array scenes), ("title", .object []), ("odd", .null)]) := by
    unfold text scenes label
    cbv
  have hplain : Document.Plain (Draft.ofText text).1 := by
    decide +kernel
  have helements : ∀ x ∈ [label, .object [("y", .bool true)], .object [("type", .int 5)]],
      x.IsElement := by
    simp only [List.forall_mem_cons, List.not_mem_nil, false_implies, implies_true, and_true]
    refine ⟨⟨trivial, ?_, ?_⟩, ⟨trivial, ?_, ?_⟩, ⟨trivial, ?_, ?_⟩⟩ <;>
      simp [label, Value.member?, Entries.get?, Value.IsSide]
  have hscenes : ∀ s ∈ scenes, s.IsScene := by
    simp only [scenes, List.forall_mem_cons, List.not_mem_nil, false_implies, implies_true,
      and_true]
    refine ⟨⟨trivial, ?_⟩, trivial, ?_⟩
    · intro w hw
      exact ⟨_, (Option.some.inj hw).symm, helements⟩
    · simp [Value.member?, Entries.get?]
  have hlists : (Value.object [("scenes", .array scenes), ("title", .object []),
      ("odd", .null)]).Lists scenes := ⟨rfl, hscenes⟩
  obtain ⟨hok, -, -, hshown⟩ := ofText_shape hread hplain {} 0
  obtain ⟨p, hp⟩ := hok.mpr ⟨scenes, hlists, by decide⟩
  obtain ⟨vs, hvs, hshows⟩ := hshown p hp
  obtain rfl := (hlists.eq_iff vs).mp hvs
  refine ⟨hread, hplain, p, hp, ?_⟩
  exact hshows.trans rfl

end Project

end Storyboard
