import Storyboard.Proofs.Document.Basic
import Storyboard.Proofs.Document.Element
import Storyboard.Proofs.SceneTable

/-!
# Projects of documents

How a document with scenes of different names becomes a project, and what of a project comes back
when the text of its document is read again.
-/

namespace Storyboard

open Json

/-! ### Scenes -/

namespace SceneEntry

variable {canvas : Canvas} {fonts : FontSizes}

@[simp] lemma map_name_toScenes (n : Nat) (ss : List SceneEntry) :
    (toScenes canvas fonts n ss).1.map (·.name) = ss.map (·.name) := by
  induction ss generalizing n with
  | nil => rfl
  | cons s ss ih => simp [toScenes, toScene, ih]

lemma names_of_toScenes {n m : Nat} {ss : List SceneEntry} {scenes : List Scene}
    (h : toScenes canvas fonts n ss = (scenes, m)) : scenes.map (·.name) = ss.map (·.name) := by
  have hnames := congrArg (fun r => r.1.map Scene.name) h
  exact hnames.symm.trans (map_name_toScenes n ss)

@[simp] lemma toScenes_eq_nil (n : Nat) (ss : List SceneEntry) :
    (toScenes canvas fonts n ss).1 = [] ↔ ss = [] := by
  cases ss <;> simp [toScenes]

/-- Every element of a document stems from an entry that names a kind. -/
lemma mem_toScenes {n : Nat} {ss : List SceneEntry} {scene : Scene}
    (hs : scene ∈ (toScenes canvas fonts n ss).1) {e : Element} (he : e ∈ scene.elements) :
    ∃ s ∈ ss, ∃ entry ∈ s.elements, ∃ i, entry.kind ≠ "" ∧ e = entry.toElement canvas fonts i := by
  induction ss generalizing n with
  | nil => simp [toScenes] at hs
  | cons s ss ih =>
    simp only [toScenes, List.mem_cons] at hs
    rcases hs with rfl | hs
    · simp only [toScene, List.mem_map] at he
      obtain ⟨⟨entry, i⟩, hmem, rfl⟩ := he
      have htyped : entry ∈ s.typed := List.fst_mem_of_mem_zipIdx hmem
      obtain ⟨hentry, hkind⟩ := List.mem_filter.mp htyped
      exact ⟨s, by simp, entry, hentry, i, by simpa using hkind, rfl⟩
    · obtain ⟨t, ht, entry, hentry, i, hi⟩ := ih hs
      exact ⟨t, by simp [ht], entry, hentry, i, hi⟩

/-- Elements with tags are there in the entry of their scene. -/
lemma typed_reread (s : Scene) :
    s.toEntry.reread.typed
      = (s.elements.filter (·.kind.tag ≠ "")).map fun e => e.toEntry.reread := by
  have helements : s.toEntry.reread.elements = s.elements.map fun e => e.toEntry.reread := by
    simp [Scene.toEntry, reread]
  have hkind : ∀ e : Element, e.toEntry.reread.kind = e.kind.tag :=
    fun e => Element.kind_toEntry (e := e)
  simp [typed, helements, List.filter_map, Function.comp_def, hkind]

/-- The elements of a scene that have tags are read back one by one. -/
lemma toScene_reread {R : Element → Element → Prop} {s : Scene}
    (h : ∀ e ∈ s.elements, e.kind.tag ≠ "" →
      ∀ n, R e (e.toEntry.reread.toElement canvas fonts n)) (n : Nat) :
    List.Forall₂ R (s.elements.filter (·.kind.tag ≠ ""))
      (s.toEntry.reread.toScene canvas fonts n).elements := by
  have key : ∀ (es : List Element) (n : Nat),
      (∀ e ∈ es, ∀ n, R e (e.toEntry.reread.toElement canvas fonts n)) →
      List.Forall₂ R es (((es.map fun e => e.toEntry.reread).zipIdx n).map fun x =>
        x.1.toElement canvas fonts x.2) := by
    intro es
    induction es with
    | nil => exact fun _ _ => .nil
    | cons e es ih =>
      intro n he
      exact .cons (he e (by simp) n) (ih (n + 1) fun x hx => he x (by simp [hx]))
  rw [toScene, typed_reread]
  refine key _ n fun e he => ?_
  obtain ⟨hmem, htag⟩ := List.mem_filter.mp he
  exact h e hmem (by simpa using htag)

/-- The scenes of a table are read back one by one. -/
theorem toScenes_reread {R : Element → Element → Prop} {t : SceneTable}
    (h : t.Forall fun e => e.kind.tag ≠ "" →
      ∀ n, R e (e.toEntry.reread.toElement canvas fonts n)) (n : Nat) :
    t.typed.Alike R ⟨(toScenes canvas fonts n (t.scenes.map fun s => s.toEntry.reread)).1⟩ := by
  obtain ⟨scenes⟩ := t
  change List.Forall₂ _ (scenes.map _) _
  induction scenes generalizing n with
  | nil => exact .nil
  | cons s ss ih =>
    have hscene := toScene_reread (h s (by simp)) n
    exact .cons ⟨rfl, hscene⟩ (ih _ fun t ht => h t (by simp [ht]))

end SceneEntry

/-! ### Projects -/

namespace Document

variable {canvas : Canvas} {n m : Nat} {doc : Document} {p : Project}

/-- The metadata of a document. -/
def metadata (doc : Document) : Metadata :=
  { (split doc.vars).2 with
    title := doc.title, author := doc.author, description := doc.description }

/-- The scenes of a document, numbered from `n` on, make its table. -/
lemma toProject_of_scenes {ss : List SceneEntry} (h : doc.scenes = some ss) {scenes : List Scene}
    (hs : SceneEntry.toScenes canvas doc.metadata.fontSizes n ss = (scenes, m)) :
    doc.toProject canvas n
      = if scenes = [] then (.ok { metadata := doc.metadata, vars := (split doc.vars).1 }, m)
        else match SceneTable.ofScenes? scenes with
          | some t => (.ok ⟨doc.metadata, (split doc.vars).1, t⟩, m)
          | none => (.error (.duplicateScenes (scenes.map (·.name))), m) := by
  have hs' : SceneEntry.toScenes canvas (split doc.vars).2.fontSizes n ss = (scenes, m) := hs
  cases ht : SceneTable.ofScenes? scenes with
  | none => simp only [toProject, h, hs', ht, metadata]
  | some t => simp only [toProject, h, hs', ht, metadata]

/-- A document gives a project when it lists scenes and their names differ. -/
lemma toProject_eq_ok : doc.toProject canvas n = (.ok p, m) ↔
    ∃ ss, doc.scenes = some ss ∧ (ss.map (·.name)).Nodup ∧
      ∃ scenes, SceneEntry.toScenes canvas doc.metadata.fontSizes n ss = (scenes, m) ∧
        p = ⟨doc.metadata, (split doc.vars).1, if scenes = [] then .initial else ⟨scenes⟩⟩ := by
  cases h : doc.scenes with
  | none => simp [toProject, h]
  | some ss =>
    rcases hs : SceneEntry.toScenes canvas doc.metadata.fontSizes n ss with ⟨scenes, k⟩
    have hnames := SceneEntry.names_of_toScenes hs
    rw [toProject_of_scenes h hs]
    simp only [Option.some.injEq, exists_eq_left', hs, ← hnames, Prod.mk.injEq]
    by_cases hne : scenes = []
    · subst hne
      simp [eq_comm, and_comm]
    · by_cases hnodup : (scenes.map (·.name)).Nodup
      · simp [SceneTable.ofScenes?, hne, hnodup, eq_comm, and_comm]
      · simp [SceneTable.ofScenes?, hne, hnodup]

/-- Why the document of a text gives no project. -/
inductive Faulty (doc : Document) : DocumentError → Prop
  | missingScenes (h : doc.scenes = none) : Faulty doc .missingScenes
  | duplicateScenes {ss : List SceneEntry} (h : doc.scenes = some ss)
      (hn : ¬ (ss.map (·.name)).Nodup) : Faulty doc (.duplicateScenes (ss.map (·.name)))

lemma toProject_eq_error {e : DocumentError} :
    (doc.toProject canvas n).1 = .error e ↔ doc.Faulty e := by
  cases h : doc.scenes with
  | none =>
    simp only [toProject, h, Except.error.injEq]
    constructor
    · rintro rfl
      exact .missingScenes h
    · rintro (_ | ⟨h', -⟩)
      · rfl
      · simp [h] at h'
  | some ss =>
    rcases hs : SceneEntry.toScenes canvas doc.metadata.fontSizes n ss with ⟨scenes, k⟩
    have hnames := SceneEntry.names_of_toScenes hs
    rw [toProject_of_scenes h hs]
    by_cases hnodup : (scenes.map (·.name)).Nodup
    · have hok : ¬ doc.Faulty e := by
        rintro (h' | ⟨h', hn⟩)
        · simp [h] at h'
        · rw [h, Option.some.injEq] at h'
          exact hn (h' ▸ hnames ▸ hnodup)
      by_cases hne : scenes = [] <;> simp [SceneTable.ofScenes?, hne, hnodup, hok]
    · have hne : scenes ≠ [] := by
        rintro rfl
        exact hnodup List.nodup_nil
      have hnone : SceneTable.ofScenes? scenes = none := if_neg fun hv => hnodup hv.2
      simp only [if_neg hne, hnone, hnames, Except.error.injEq]
      constructor
      · rintro rfl
        exact .duplicateScenes h (hnames ▸ hnodup)
      · rintro (h' | ⟨h', hn⟩)
        · simp [h] at h'
        · rw [h, Option.some.injEq] at h'
          rw [h']

end Document

namespace Project

variable {canvas : Canvas} {n m : Nat} {p : Project}

/-- Why a text gives no project. -/
inductive Unreadable (text : String) : DocumentError → Prop
  | json {e : Json.Error} (h : Document.ofText text = .error e) : Unreadable text (.json e)
  | document {doc : Document} {e : DocumentError} (h : Document.ofText text = .ok doc)
      (he : doc.Faulty e) : Unreadable text e

/-- Whether a text is refused, and why, depends on nothing but the text. -/
lemma ofText_eq_error (canvas : Canvas) (n : Nat) {text : String} {e : DocumentError} :
    (ofText canvas n text).1 = .error e ↔ Unreadable text e := by
  unfold ofText
  cases h : Document.ofText text with
  | error b =>
    simp only [Except.error.injEq]
    constructor
    · rintro rfl
      exact .json h
    · rintro (h' | ⟨h', -⟩)
      · rw [h, Except.error.injEq] at h'
        rw [h']
      · simp [h] at h'
  | ok doc =>
    simp only [Document.toProject_eq_error]
    constructor
    · exact .document h
    · rintro (h' | ⟨h', he⟩)
      · simp [h] at h'
      · rw [h, Except.ok.injEq] at h'
        exact h' ▸ he

/-- What a text gives: scenes of different names, variables and metadata as documents give them,
and elements that stem from entries with numbers in range. -/
theorem of_ofText {text : String} (h : ofText canvas n text = (.ok p, m)) :
    p.scenes.Valid ∧ p.vars.Canonical ∧ p.metadata.Canonical ∧
      p.scenes.Forall fun e => ∃ entry : ElementEntry, ∃ i, entry.InRange ∧ entry.kind ≠ "" ∧
        e = entry.toElement canvas p.metadata.fontSizes i := by
  unfold ofText at h
  split at h
  · simp at h
  · rename_i doc hdoc
    obtain ⟨⟨room, hvars⟩, hscenes⟩ := Document.readable_of_ofText hdoc
    obtain ⟨hv, hm⟩ := Document.split_canonical hvars
    obtain ⟨ss, hss, hnodup, scenes, hs, rfl⟩ := Document.toProject_eq_ok.mp h
    refine ⟨?_, hv, ⟨hm.background, hm.fontSizes, hm.fontFiles⟩, ?_⟩
    · by_cases hne : scenes = []
      · simpa [hne] using SceneTable.initial_valid
      · simp only [if_neg hne]
        exact ⟨hne, show (scenes.map (·.name)).Nodup from SceneEntry.names_of_toScenes hs ▸ hnodup⟩
    · dsimp only
      split
      · exact SceneTable.forall_initial
      · intro s hmem e he
        have hmem' : s ∈ (SceneEntry.toScenes canvas doc.metadata.fontSizes n ss).1 := hs ▸ hmem
        obtain ⟨t, ht, entry, hentry, i, hkind, rfl⟩ := SceneEntry.mem_toScenes hmem' he
        exact ⟨entry, i, hscenes ss hss t ht entry hentry, hkind, rfl⟩

section Written

variable (hvars : p.vars.Canonical) (htidy : p.metadata.Tidy)
  (hfonts : p.metadata.fontSizes.Bounded)

include hvars htidy hfonts

lemma metadata_reread_toDocument : p.toDocument.reread.metadata = p.metadata.reread := by
  simp only [Document.metadata, Document.reread, toDocument, collapse_written hvars,
    Document.split_written hvars htidy hfonts, Metadata.reread]

lemma vars_reread_toDocument : (Document.split p.toDocument.reread.vars).1 = p.vars := by
  simp only [Document.reread, toDocument, collapse_written hvars,
    Document.split_written hvars htidy hfonts]

/-- The text of a project is the text of its document, whatever blanks follow it. -/
lemma ofText_toText_document (h : p.scenes.Forall Element.Legible) {rest : String}
    (hr : Delimited rest.toList) (ht : tokens rest.toList = []) :
    Document.ofText (p.toText ++ rest) = .ok p.toDocument.reread := by
  have hscenes : p.toDocument.scenes = some (p.scenes.scenes.map (·.toEntry)) := rfl
  refine Document.ofText_toText _ hscenes ?_ ?_ ?_ hr ht
  · simp only [toDocument, collapse_written hvars]
    exact fits_written hvars htidy 124
  · simp only [toDocument, collapse_written hvars]
    exact readable_written hfonts
  · intro s hs e he
    obtain ⟨scene, hscene, rfl⟩ := List.mem_map.mp hs
    obtain ⟨element, helement, rfl⟩ := List.mem_map.mp he
    exact (h scene hscene element helement).toEntry

end Written

lemma scenes_reread_toDocument :
    p.toDocument.reread.scenes = some (p.scenes.scenes.map fun s => s.toEntry.reread) := by
  simp [Document.reread, toDocument]

lemma nodup_reread_toEntry (h : p.scenes.Valid) :
    ((p.scenes.scenes.map fun s => s.toEntry.reread).map (·.name)).Nodup := by
  have hnames := h.2
  simpa [SceneTable.names, Scene.toEntry, SceneEntry.reread, Function.comp_def] using hnames

/-- The text of a project is read back, whatever blanks follow it: the elements that have tags one
by one, and the metadata with the usual sizes for fonts of size zero. -/
theorem exists_ofText_toText {R : Element → Element → Prop} (canvas : Canvas) (n : Nat)
    (hvalid : p.scenes.Valid) (hvars : p.vars.Canonical) (htidy : p.metadata.Tidy)
    (hfonts : p.metadata.fontSizes.Bounded)
    (h : p.scenes.Forall fun e => e.Legible ∧ (e.kind.tag ≠ "" →
      ∀ i, R e (e.toEntry.reread.toElement canvas p.metadata.fontSizes.reread i)))
    (rest : String) (hr : Delimited rest.toList) (ht : tokens rest.toList = []) :
    ∃ q m, ofText canvas n (p.toText ++ rest) = (.ok q, m) ∧ q.metadata = p.metadata.reread ∧
      q.vars = p.vars ∧ p.scenes.typed.Alike R q.scenes := by
  have hdoc := ofText_toText_document hvars htidy hfonts (h.imp fun e he => he.1) hr ht
  have hmeta := metadata_reread_toDocument hvars htidy hfonts
  rcases hs : SceneEntry.toScenes canvas p.metadata.reread.fontSizes n
      (p.scenes.scenes.map fun s => s.toEntry.reread) with ⟨scenes, m⟩
  have hread := SceneEntry.toScenes_reread (h.imp fun e he => he.2) n
  rw [show p.metadata.fontSizes.reread = p.metadata.reread.fontSizes from rfl, hs] at hread
  have hne : scenes ≠ [] := by
    rintro rfl
    exact hvalid.1 (List.map_eq_nil_iff.mp (List.forall₂_nil_right_iff.mp hread))
  refine ⟨⟨p.metadata.reread, p.vars, ⟨scenes⟩⟩, m, ?_, rfl, rfl, hread⟩
  unfold ofText
  rw [hdoc]
  apply Document.toProject_eq_ok.mpr
  refine ⟨_, scenes_reread_toDocument, nodup_reread_toEntry hvalid, scenes, hmeta ▸ hs, ?_⟩
  rw [hmeta, vars_reread_toDocument hvars htidy hfonts, if_neg hne]

/-- The text of a project with metadata of a document is read back. -/
theorem ofText_toText {β : Type} (canvas : Canvas) (n : Nat) (f g : Element → β)
    (hvalid : p.scenes.Valid)
    (hvars : p.vars.Canonical) (hmetadata : p.metadata.Canonical)
    (h : p.scenes.Forall fun e => e.Legible ∧ e.kind.Tagged ∧
      ∀ i, f (e.toEntry.reread.toElement canvas p.metadata.fontSizes i) = g e)
    (rest : String) (hr : Delimited rest.toList) (ht : tokens rest.toList = []) :
    ∃ q m, ofText canvas n (p.toText ++ rest) = (.ok q, m) ∧ q.metadata = p.metadata ∧
      q.vars = p.vars ∧ q.scenes.scenes.map (fun s => (s.name, s.elements.map f))
        = p.scenes.scenes.map fun s => (s.name, s.elements.map g) := by
  have hfonts := FontSizes.reread_eq hmetadata.fontSizes
  rw [← hfonts] at h
  obtain ⟨q, m, hq, hm, hv, halike⟩ := exists_ofText_toText (R := fun e e' => f e' = g e) canvas n
    hvalid hvars hmetadata.tidy hmetadata.fontSizes.bounded
    (h.imp fun e he => ⟨he.1, fun _ => he.2.2⟩) rest hr ht
  rw [SceneTable.typed_eq (h.imp fun e he => he.2.1.tag_ne)] at halike
  exact ⟨q, m, hq, hm.trans hmetadata.reread_eq, hv, halike.map_eq⟩

end Project

end Storyboard
