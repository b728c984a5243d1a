import Mathlib.Logic.Equiv.Fintype
import Storyboard.Proofs.Document.Numbering
import Storyboard.Proofs.Format
import Storyboard.Session.Edit

/-!
# Other names for elements

Names tell elements apart and mean nothing else. What is done to an element or to a table of scenes
commutes with giving the elements other names, and a document that is read from another number on
gives the same project under other names.
-/

namespace Storyboard

open ElementId

variable {σ τ : ElementId → ElementId} {n m : Nat} {canvas : Canvas} {fonts : FontSizes}

/-! ### Renumbering -/

/-- Different names stay different, and the names with the numbers from `n` on become those with
the numbers from `m` on. -/
structure Renumbers (σ : ElementId → ElementId) (n m : Nat) : Prop where
  injective : Function.Injective σ
  numbered (stem : String) (i : Nat) : σ (numbered stem (n + i)) = numbered stem (m + i)

namespace Renumbers

lemma zero (h : Renumbers σ n m) (stem : String) :
    σ (ElementId.numbered stem n) = ElementId.numbered stem m :=
  h.numbered stem 0

lemma add (h : Renumbers σ n m) (k : Nat) : Renumbers σ (n + k) (m + k) :=
  ⟨h.injective, fun stem i => by simpa [Nat.add_assoc] using h.numbered stem (k + i)⟩

lemma numberedFrom (h : Renumbers σ n m) (stems : List String) :
    (ElementId.numberedFrom n stems).map σ = ElementId.numberedFrom m stems := by
  induction stems generalizing n m with
  | nil => rfl
  | cons stem stems ih =>
    rw [numberedFrom_cons, numberedFrom_cons, List.map_cons, h.zero, ih (h.add 1)]

end Renumbers

lemma numbered_add_injective (n : Nat) :
    Function.Injective fun x : String × Nat => numbered x.1 (n + x.2) := by
  rintro ⟨a, i⟩ ⟨b, j⟩ h
  obtain ⟨rfl, hij⟩ := numbered_inj.mp h
  exact Prod.ext rfl (Nat.add_left_cancel hij)

/-- The names with the numbers from `n` on can be moved on, and all others stay. -/
lemma exists_renumbers (n k : Nat) :
    ∃ σ, Renumbers σ n (n + k) ∧ ∀ stem i, i < n → σ (numbered stem i) = numbered stem i := by
  let old : String × Nat → ElementId := fun x => numbered x.1 (n + x.2)
  let new : String × Nat → ElementId := fun x => numbered x.1 (n + k + x.2)
  have hold : Function.Injective old := numbered_add_injective n
  have hnew : Function.Injective new := numbered_add_injective (n + k)
  have hmoved (x : String × Nat) : new x = old (x.1, k + x.2) := by
    simp only [new, old, Nat.add_assoc]
  let σ : ElementId → ElementId := Function.extend old new id
  have hσ (x : String × Nat) : σ (old x) = new x := hold.extend_apply new id x
  have hstay (i : ElementId) (h : ¬ ∃ x, old x = i) : σ i = i := Function.extend_apply' new id i h
  refine ⟨σ, ⟨?_, fun stem i => hσ (stem, i)⟩, fun stem i hi => hstay _ ?_⟩
  · intro a b h
    by_cases ha : ∃ x, old x = a <;> by_cases hb : ∃ x, old x = b
    · obtain ⟨x, rfl⟩ := ha
      obtain ⟨y, rfl⟩ := hb
      rw [hσ, hσ] at h
      rw [hnew h]
    · obtain ⟨x, rfl⟩ := ha
      rw [hσ, hstay b hb, hmoved] at h
      exact absurd ⟨_, h⟩ hb
    · obtain ⟨y, rfl⟩ := hb
      rw [hσ, hstay a ha, hmoved] at h
      exact absurd ⟨_, h.symm⟩ ha
    · rwa [hstay a ha, hstay b hb] at h
  · rintro ⟨x, hx⟩
    have hnumber : n + x.2 = i := number_eq_of_numbered_eq hx
    omega

lemma nodup_numberedFrom (n : Nat) (stems : List String) : (numberedFrom n stems).Nodup := by
  obtain ⟨r, hr, rfl⟩ := Registry.exists_used n
  rw [← Registry.freshAll_fst]
  exact (hr.sound.freshAll_new stems).1

/-- Names with the same stems are exchanged by a permutation, whatever their numbers. -/
lemma exists_perm_numberedFrom (n m : Nat) (stems : List String) :
    ∃ π : Equiv.Perm ElementId, (numberedFrom n stems).map π = numberedFrom m stems := by
  have hlength (i : Nat) : stems.length = (numberedFrom i stems).length := by simp [numberedFrom]
  have hinj (i : Nat) : Function.Injective fun j : Fin stems.length =>
      (numberedFrom i stems).get (j.cast (hlength i)) :=
    (List.nodup_iff_injective_get.mp (nodup_numberedFrom i stems)).comp (Fin.cast_injective _)
  obtain ⟨π, hπ⟩ := Equiv.Perm.exists_extending_pair _ _ (hinj n) (hinj m)
  refine ⟨π, List.ext_getElem (by simp [← hlength]) ?_⟩
  intro i h₁ h₂
  rw [List.getElem_map]
  exact hπ ⟨i, hlength m ▸ h₂⟩

/-! ### Elements -/

namespace Element

/-- The element under another name. -/
def rename (σ : ElementId → ElementId) (e : Element) : Element :=
  { e with id := σ e.id }

variable (e : Element)

@[simp] lemma rename_id : (e.rename σ).id = σ e.id := rfl

@[simp] lemma rename_kind : (e.rename σ).kind = e.kind := rfl

@[simp] lemma rename_text : (e.rename σ).text = e.text := rfl

@[simp] lemma rename_trigger : (e.rename σ).trigger = e.trigger := rfl

@[simp] lemma toEntry_rename : (e.rename σ).toEntry = e.toEntry := rfl

lemma conform_rename : (e.rename σ).conform = e.conform.rename σ := by
  obtain ⟨id, kind⟩ := e
  cases kind <;> rfl

lemma fit_rename (canvas : Canvas) (fonts : FontSizes) :
    (e.rename σ).fit canvas fonts = (e.fit canvas fonts).rename σ := by
  cases h : e.kind.isMenu with
  | true =>
    rw [fit_of_menu _ _ e h, fit_of_menu _ _ (e.rename σ) h]
    rfl
  | false =>
    rw [fit_of_not_menu _ _ e h, fit_of_not_menu _ _ (e.rename σ) h]
    rfl

lemma create_rename {kind : Kind} (h : σ (numbered kind.tag n) = numbered kind.tag m)
    (p : Position) (canvas : Canvas) :
    create m kind p canvas = (create n kind p canvas).rename σ := by
  cases kind <;> simp only [create, rename, conform, Kind.isMenu, ← h] <;> rfl

/-- Copies of renamed elements are the copies under the names that come next. -/
lemma copies_rename {es : List Element}
    (h : (numberedFrom n (es.map (·.kind.tag))).map σ = numberedFrom m (es.map (·.kind.tag))) :
    copies m (es.map (rename τ)) = (copies n es).map (rename σ) := by
  induction es generalizing n m with
  | nil => rfl
  | cons e es ih =>
    simp only [List.map_cons, numberedFrom_cons, List.cons.injEq] at h
    have hrest := ih h.2
    simp only [copies, List.map_cons, List.zipIdx_cons] at hrest ⊢
    simp only [hrest, List.cons.injEq, and_true]
    simp only [renumber, rename, h.1]

end Element

namespace Edit

variable (ctx : EditContext) (e : Element) (edit : Edit)

lemma change_rename : edit.change ctx (e.rename σ) = (edit.change ctx e).rename σ := by
  cases edit with
  | move p =>
    cases h : e.kind.isMenu <;> simp only [change, Element.rename_kind, h] <;> rfl
  | resize width height =>
    cases h : e.kind.isMenu <;> simp only [change, Element.rename_kind, h] <;> rfl
  | image | video | collapsedList =>
    simp only [change, Element.rename_kind]
    split <;> rfl
  | _ => rfl

lemma apply_rename : edit.apply ctx (e.rename σ) = (edit.apply ctx e).rename σ := by
  rw [apply, change_rename, Element.conform_rename, apply]

end Edit

/-! ### Projects -/

/-- The table with other names for its elements. -/
def SceneTable.rename (σ : ElementId → ElementId) (t : SceneTable) : SceneTable :=
  t.mapElements (·.rename σ)

/-- The project with other names for its elements. -/
def Project.rename (σ : ElementId → ElementId) (p : Project) : Project :=
  { p with scenes := p.scenes.rename σ }

namespace SceneTable

variable {t : SceneTable} {name : String} {f g : List Element → List Element}

@[simp] lemma names_rename : (t.rename σ).names = t.names := names_mapElements _

@[simp] lemma size_rename : (t.rename σ).size = t.size := List.length_map _

@[simp] lemma nextName_rename : (t.rename σ).nextName = t.nextName := by
  rw [nextName, size_rename, nextName]

@[simp] lemma initial_rename : initial.rename σ = initial := rfl

@[simp] lemma first_rename : (t.rename σ).first.name = t.first.name := by
  obtain ⟨_ | ⟨s, l⟩⟩ := t <;> rfl

lemma elements_rename : (t.rename σ).elements name = (t.elements name).map (·.rename σ) :=
  elements_mapElements _

lemma drop_rename : (t.rename σ).drop name = (t.drop name).rename σ := drop_mapElements _

lemma add_rename (es : List Element) :
    (t.rename σ).add name (es.map (·.rename σ)) = (t.add name es).rename σ := by
  simp [rename, add, mapElements]

lemma relabel_rename (old new : String) :
    (t.rename σ).relabel old new = (t.relabel old new).rename σ := by
  simp only [rename, relabel, mapElements, List.map_map, mk.injEq]
  refine List.map_congr_left fun s _ => ?_
  simp only [Function.comp_apply]
  split <;> rfl

lemma modify_rename (h : ∀ es, g (es.map (·.rename σ)) = (f es).map (·.rename σ)) :
    (t.rename σ).modify name g = (t.modify name f).rename σ := by
  simp only [rename, modify, mapElements, List.map_map, mk.injEq]
  refine List.map_congr_left fun s _ => ?_
  simp only [Function.comp_apply]
  split
  · simp only [h]
  · rfl

lemma fit_rename : (t.rename σ).fit canvas fonts = (t.fit canvas fonts).rename σ := by
  simp only [rename, fit, mapElements, List.map_map, Function.comp_def, Element.fit_rename]

/-- Only the names that occur count. -/
lemma rename_congr (h : ∀ id ∈ t.ids, σ id = τ id) : t.rename σ = t.rename τ := by
  simp only [rename, mapElements, mk.injEq]
  refine List.map_congr_left fun s hs => ?_
  simp only [Scene.mk.injEq, true_and]
  refine List.map_congr_left fun e he => ?_
  have hid : e.id ∈ t.ids := List.mem_flatMap.mpr ⟨s, hs, List.mem_map_of_mem he⟩
  simp only [Element.rename, h e.id hid]

end SceneTable

namespace Project

variable {p : Project}

@[simp] lemma metadata_rename : (p.rename σ).metadata = p.metadata := rfl

@[simp] lemma vars_rename : (p.rename σ).vars = p.vars := rfl

@[simp] lemma scenes_rename : (p.rename σ).scenes = p.scenes.rename σ := rfl

@[simp] lemma toText_rename : (p.rename σ).toText = p.toText := by
  simp [toText, toDocument, SceneTable.rename, SceneTable.mapElements, Scene.toEntry,
    Function.comp_def]

lemma fit_rename : (p.rename σ).fit canvas = (p.fit canvas).rename σ := by
  simp only [fit, rename, SceneTable.fit_rename]

end Project

/-! ### Documents -/

lemma ElementEntry.toElement_rename {e : ElementEntry}
    (h : σ (numbered e.toKind.tag n) = numbered e.toKind.tag m) :
    e.toElement canvas fonts m = (e.toElement canvas fonts n).rename σ := by
  cases hm : e.toKind.isMenu with
  | true =>
    rw [Kind.isMenu_iff.mp hm] at h
    rw [toElement_of_menu canvas fonts n hm, toElement_of_menu canvas fonts m hm, Element.rename]
    exact congrArg (fun id => Element.mk id _ _ _ _ _ _) h.symm
  | false =>
    rw [toElement_of_not_menu canvas fonts n hm, toElement_of_not_menu canvas fonts m hm,
      Element.rename, h]

namespace SceneEntry

lemma toElements_rename {es : List ElementEntry}
    (h : (numberedFrom n (es.map (·.toKind.tag))).map σ
      = numberedFrom m (es.map (·.toKind.tag))) :
    (es.zipIdx m).map (fun x => x.1.toElement canvas fonts x.2)
      = ((es.zipIdx n).map fun x => x.1.toElement canvas fonts x.2).map (·.rename σ) := by
  induction es generalizing n m with
  | nil => rfl
  | cons e es ih =>
    simp only [List.map_cons, numberedFrom_cons, List.cons.injEq] at h
    simp only [List.zipIdx_cons, List.map_cons, ih h.2, e.toElement_rename h.1]

lemma toScenes_rename (canvas : Canvas) (fonts : FontSizes) {ss : List SceneEntry}
    (h : (numberedFrom n (ss.flatMap tags)).map σ = numberedFrom m (ss.flatMap tags)) :
    (⟨(toScenes canvas fonts m ss).1⟩ : SceneTable)
      = (⟨(toScenes canvas fonts n ss).1⟩ : SceneTable).rename σ := by
  induction ss generalizing n m with
  | nil => rfl
  | cons s ss ih =>
    simp only [List.flatMap_cons, numberedFrom_append, List.map_append] at h
    obtain ⟨hfirst, hrest⟩ := List.append_inj h (by simp [numberedFrom])
    have hlength : s.tags.length = s.typed.length := List.length_map _
    rw [hlength] at hrest
    have hscenes := ih hrest
    simp only [SceneTable.rename, SceneTable.mapElements, SceneTable.mk.injEq] at hscenes ⊢
    simp only [toScenes, List.map_cons, hscenes, List.cons.injEq, and_true]
    simp only [toScene, toElements_rename hfirst]

end SceneEntry

/-- A text that is read from another number on gives the same with other names. -/
theorem Project.ofText_rename {text : String} {p : Project}
    (h : (numberedFrom n (tagsOfText text)).map σ = numberedFrom m (tagsOfText text)) {k : Nat}
    (hp : ofText canvas n text = (.ok p, k)) :
    ofText canvas m text = (.ok (p.rename σ), m + (tagsOfText text).length) := by
  refine Prod.ext ?_ (ofText_snd canvas m text)
  unfold ofText at hp ⊢
  unfold tagsOfText at h
  cases hdoc : Document.ofText text with
  | error e => simp [hdoc] at hp
  | ok doc =>
    simp only [hdoc] at hp h ⊢
    obtain ⟨ss, hss, hnodup, scenes, hs, rfl⟩ := Document.toProject_eq_ok.mp hp
    have htags : doc.tags = ss.flatMap SceneEntry.tags := by simp [Document.tags, hss]
    rw [htags] at h
    have hscenes : (SceneEntry.toScenes canvas doc.metadata.fontSizes m ss).1
        = ((⟨scenes⟩ : SceneTable).rename σ).scenes := by
      have hrename := SceneEntry.toScenes_rename canvas doc.metadata.fontSizes h
      rw [hs] at hrename
      exact congrArg SceneTable.scenes hrename
    rw [Document.toProject_eq_ok.mpr ⟨ss, hss, hnodup, _, rfl, rfl⟩, hscenes]
    simp only [Except.ok.injEq, Project.rename, Project.mk.injEq, true_and]
    by_cases hnil : scenes = []
    · simp [hnil, SceneTable.rename, SceneTable.mapElements, SceneTable.initial]
    · simp [hnil, SceneTable.rename, SceneTable.mapElements]

end Storyboard
