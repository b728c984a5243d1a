import Storyboard.Proofs.Document.Canonical
import Storyboard.Proofs.Element.Id

/-!
# The numbers of a document's elements

Reading a document numbers its elements from a given number on. Which number that is shows in
their names only: the same texts are refused, and what the others give differs in nothing else.
The numbers that are used up follow from the text, whether or not it gives a project.
-/

namespace Storyboard

variable {canvas : Canvas} {fonts : FontSizes}

lemma ElementEntry.anonymous_toElement (e : ElementEntry) (n m : Nat) :
    (e.toElement canvas fonts n).anonymous = (e.toElement canvas fonts m).anonymous := by
  cases h : e.toKind.isMenu with
  | true =>
    rw [toElement_of_menu canvas fonts n h, toElement_of_menu canvas fonts m h]
    rfl
  | false =>
    rw [toElement_of_not_menu canvas fonts n h, toElement_of_not_menu canvas fonts m h]
    rfl

namespace SceneEntry

/-- Without names the elements of a scene follow from its entries. -/
lemma anonymous_toScene (s : SceneEntry) (n : Nat) :
    (s.toScene canvas fonts n).elements.map Element.anonymous
      = s.typed.map fun e => (e.toElement canvas fonts 0).anonymous := by
  have hfirst : (s.typed.zipIdx n).map Prod.fst = s.typed := List.zipIdx_map_fst n s.typed
  conv_rhs => rw [← hfirst]
  simp only [toScene, List.map_map]
  refine List.map_congr_left fun x _ => ?_
  exact x.1.anonymous_toElement x.2 0

lemma anonymous_toScenes (canvas : Canvas) (fonts : FontSizes) (n m : Nat)
    (ss : List SceneEntry) :
    (toScenes canvas fonts n ss).1.map (fun s => (s.name, s.elements.map Element.anonymous))
      = (toScenes canvas fonts m ss).1.map
          fun s => (s.name, s.elements.map Element.anonymous) := by
  induction ss generalizing n m with
  | nil => rfl
  | cons s ss ih =>
    simp only [toScenes, List.map_cons, anonymous_toScene, ih _ (m + s.typed.length)]
    rfl

end SceneEntry

lemma Document.anonymous_toProject (doc : Document) (n m : Nat) :
    (doc.toProject canvas n).1.map Project.anonymous
      = (doc.toProject canvas m).1.map Project.anonymous := by
  rcases hn : doc.toProject canvas n with ⟨e | p, k⟩
  · rw [toProject_eq_error.mpr (toProject_eq_error.mp (congrArg Prod.fst hn))]
  · obtain ⟨ss, hss, hnodup, scenes, hs, rfl⟩ := toProject_eq_ok.mp hn
    rcases ht : SceneEntry.toScenes canvas doc.metadata.fontSizes m ss with ⟨scenes', k'⟩
    have hsame := SceneEntry.anonymous_toScenes canvas doc.metadata.fontSizes n m ss
    rw [hs, ht] at hsame
    have hnil : scenes = [] ↔ scenes' = [] := by
      rw [← List.map_eq_nil_iff, hsame, List.map_eq_nil_iff]
    rw [toProject_eq_ok.mpr ⟨ss, hss, hnodup, scenes', ht, rfl⟩]
    refine congrArg Except.ok (Project.anonymous_eq rfl rfl ?_)
    by_cases hempty : scenes' = []
    · rw [if_pos hempty, if_pos (hnil.mpr hempty)]
    · rw [if_neg hempty, if_neg (mt hnil.mp hempty)]
      exact hsame

/-- The number from which a text is read on shows in nothing but names. -/
theorem Project.anonymous_ofText (canvas : Canvas) (n m : Nat) (text : String) :
    (ofText canvas n text).1.map anonymous = (ofText canvas m text).1.map anonymous := by
  unfold ofText
  cases Document.ofText text with
  | error e => rfl
  | ok doc => exact doc.anonymous_toProject n m

/-! ### The names that are used up -/

open ElementId

@[simp] lemma ElementEntry.toElement_id (e : ElementEntry) (n : Nat) :
    (e.toElement canvas fonts n).id = numbered e.toKind.tag n := by
  cases h : e.toKind.isMenu with
  | true =>
    rw [toElement_of_menu canvas fonts n h, Kind.isMenu_iff.mp h]
    rfl
  | false => rw [toElement_of_not_menu canvas fonts n h]

namespace SceneEntry

/-- The tags of the elements of a scene. -/
def tags (s : SceneEntry) : List String :=
  s.typed.map (·.toKind.tag)

lemma ids_toScene (s : SceneEntry) (n : Nat) :
    (s.toScene canvas fonts n).elements.map (·.id) = numberedFrom n s.tags := by
  simp [toScene, tags, numberedFrom, List.zipIdx_map, Function.comp_def]

/-- The scenes of some entries take as many numbers as the entries have elements. -/
lemma toScenes_snd (n : Nat) (ss : List SceneEntry) :
    (toScenes canvas fonts n ss).2 = n + (ss.flatMap tags).length := by
  induction ss generalizing n with
  | nil => rfl
  | cons s ss ih =>
    simp only [toScenes, ih, List.flatMap_cons, List.length_append, tags, List.length_map]
    omega

lemma ids_toScenes (canvas : Canvas) (fonts : FontSizes) (n : Nat) (ss : List SceneEntry) :
    (⟨(toScenes canvas fonts n ss).1⟩ : SceneTable).ids = numberedFrom n (ss.flatMap tags) := by
  induction ss generalizing n with
  | nil => rfl
  | cons s ss ih =>
    have hrest := ih (n + s.typed.length)
    simp only [SceneTable.ids] at hrest
    simp [SceneTable.ids, toScenes, ids_toScene, hrest, numberedFrom_append, tags]

end SceneEntry

namespace Document

/-- The tags of the elements of a document, scene by scene. -/
def tags (doc : Document) : List String :=
  (doc.scenes.getD []).flatMap SceneEntry.tags

/-- A document takes its numbers also when it is refused. -/
lemma toProject_snd (doc : Document) (n : Nat) :
    (doc.toProject canvas n).2 = n + doc.tags.length := by
  cases h : doc.scenes with
  | none => simp [toProject, h, tags]
  | some ss =>
    rcases hs : SceneEntry.toScenes canvas doc.metadata.fontSizes n ss with ⟨scenes, m⟩
    have hm : m = n + doc.tags.length := by
      have hsnd := congrArg Prod.snd hs
      simpa [SceneEntry.toScenes_snd, tags, h] using hsnd.symm
    rw [toProject_of_scenes h hs, ← hm]
    split
    · rfl
    · split <;> rfl

lemma ids_toProject {doc : Document} {n m : Nat} {p : Project}
    (h : doc.toProject canvas n = (.ok p, m)) : p.scenes.ids = numberedFrom n doc.tags := by
  obtain ⟨ss, hss, -, scenes, hs, rfl⟩ := toProject_eq_ok.mp h
  have hids : (⟨scenes⟩ : SceneTable).ids = numberedFrom n doc.tags := by
    have hread := SceneEntry.ids_toScenes canvas doc.metadata.fontSizes n ss
    simpa [hs, tags, hss] using hread
  rw [← hids]
  by_cases hnil : scenes = []
  · simp [hnil, SceneTable.ids, SceneTable.initial]
  · simp [hnil]

end Document

namespace Project

/-- The tags of the elements that reading a text creates. -/
def tagsOfText (text : String) : List String :=
  match Document.ofText text with
  | .ok doc => doc.tags
  | .error _ => []

/-- A text takes its numbers also when it is refused. -/
theorem ofText_snd (canvas : Canvas) (n : Nat) (text : String) :
    (ofText canvas n text).2 = n + (tagsOfText text).length := by
  unfold ofText tagsOfText
  cases Document.ofText text with
  | error e => rfl
  | ok doc => exact doc.toProject_snd n

/-- The elements of a text are named by the numbers that it takes, in order. -/
theorem ids_ofText {n m : Nat} {text : String} {p : Project}
    (h : ofText canvas n text = (.ok p, m)) :
    p.scenes.ids = numberedFrom n (tagsOfText text) := by
  unfold ofText at h
  unfold tagsOfText
  cases hdoc : Document.ofText text with
  | error e => simp [hdoc] at h
  | ok doc =>
    rw [hdoc] at h
    exact Document.ids_toProject h

end Project

end Storyboard
