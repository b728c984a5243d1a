import Storyboard.Proofs.Entries
import Storyboard.Scene

/-!
# Tables of scenes

What the operations on a table do to its names and to the elements of one scene. A name that
occurs once stands for one scene, so changing the elements of a name and looking them up meet.
-/

namespace Storyboard

namespace SceneTable

variable {t : SceneTable} {name : String} {f g : List Element → List Element}

/-- The table with one more scene at the end. -/
def add (t : SceneTable) (name : String) (elements : List Element) : SceneTable :=
  ⟨t.scenes ++ [⟨name, elements⟩]⟩

/-- The table with a scene under another name, in its place. -/
def relabel (t : SceneTable) (old new : String) : SceneTable :=
  ⟨t.scenes.map fun s => if s.name = old then { s with name := new } else s⟩

/-- The table without a scene. -/
def drop (t : SceneTable) (name : String) : SceneTable :=
  ⟨t.scenes.filter (·.name ≠ name)⟩

/-! ### Names -/

@[simp] lemma contains_iff : t.contains name = true ↔ name ∈ t.names := by
  simp [contains]

@[simp] lemma names_modify : (t.modify name f).names = t.names := by
  simp only [names, modify, List.map_map]
  refine List.map_congr_left fun s _ => ?_
  simp only [Function.comp_apply]
  split <;> rfl

@[simp] lemma names_mapElements (h : Element → Element) : (t.mapElements h).names = t.names := by
  simp [names, mapElements]

@[simp] lemma names_add (es : List Element) : (t.add name es).names = t.names ++ [name] := by
  simp [names, add]

@[simp] lemma names_relabel (old new : String) :
    (t.relabel old new).names = t.names.map fun n => if n = old then new else n := by
  simp only [names, relabel, List.map_map]
  refine List.map_congr_left fun s _ => ?_
  simp only [Function.comp_apply]
  split <;> rfl

@[simp] lemma names_drop : (t.drop name).names = t.names.filter (· ≠ name) := by
  simp [names, drop, List.filter_map, Function.comp_def]

@[simp] lemma size_modify : (t.modify name f).size = t.size := by
  simp [size, modify]

@[simp] lemma nextName_modify : (t.modify name f).nextName = t.nextName := by
  simp [nextName]

/-! ### Validity -/

lemma valid_iff : t.Valid ↔ t.names ≠ [] ∧ t.names.Nodup := by
  simp [Valid, names]

lemma Valid.modify (h : t.Valid) : (t.modify name f).Valid := by
  simpa [valid_iff] using valid_iff.mp h

lemma Valid.mapElements (h : t.Valid) (k : Element → Element) : (t.mapElements k).Valid := by
  simpa [valid_iff] using valid_iff.mp h

lemma Valid.add (h : t.Valid) (hn : name ∉ t.names) (es : List Element) :
    (t.add name es).Valid := by
  simp only [valid_iff, names_add, List.nodup_append]
  refine ⟨by simp, h.2, by simp, ?_⟩
  rintro a ha b hb rfl
  exact hn (List.mem_singleton.mp hb ▸ ha)

lemma Valid.relabel {new : String} (h : t.Valid) (hn : new ∉ t.names) :
    (t.relabel name new).Valid := by
  simp only [valid_iff, names_relabel]
  refine ⟨by simpa using (valid_iff.mp h).1, List.Nodup.map_on ?_ h.2⟩
  intro a ha b hb hab
  by_cases ha' : a = name <;> by_cases hb' : b = name <;>
    simp only [ha', hb', if_true, if_false] at hab ⊢
  · exact absurd (hab ▸ hb) hn
  · exact absurd (hab ▸ ha) hn
  · exact hab

lemma Valid.drop (h : t.Valid) (hs : 1 < t.size) : (t.drop name).Valid := by
  rw [valid_iff, names_drop]
  refine ⟨fun hnil => ?_, h.2.filter _⟩
  have hall : ∀ n ∈ t.names, n = name := by simpa using hnil
  have hlen : 1 < t.names.length := by simpa [names, size] using hs
  rcases hn : t.names with _ | ⟨a, _ | ⟨b, l⟩⟩
  · simp [hn] at hlen
  · simp [hn] at hlen
  · have hab : a ≠ b := by
      have := hn ▸ h.2
      simp_all
    exact hab ((hall a (by simp [hn])).trans (hall b (by simp [hn])).symm)

/-! ### The elements of a scene -/

lemma get?_of_mem (h : name ∈ t.names) : t.get? name = some ⟨name, t.elements name⟩ := by
  unfold elements
  cases hg : t.get? name with
  | none =>
    obtain ⟨s, hs, rfl⟩ := List.mem_map.mp h
    have := List.find?_eq_none.mp hg s hs
    simp at this
  | some s =>
    have hn : s.name = name := by simpa using List.find?_some hg
    simp [← hn]

lemma modify_modify : (t.modify name f).modify name g = t.modify name (g ∘ f) := by
  simp only [modify, List.map_map, mk.injEq]
  refine List.map_congr_left fun s _ => ?_
  by_cases h : s.name = name <;> simp [h]

lemma modify_of_notMem (h : name ∉ t.names) : t.modify name f = t := by
  cases t with
  | mk scenes =>
    simp only [modify, mk.injEq]
    refine (List.map_congr_left fun s hs => if_neg ?_).trans (List.map_id scenes)
    rintro rfl
    exact h (List.mem_map_of_mem hs)

lemma get?_modify (h : name ∈ t.names) :
    (t.modify name f).get? name = some ⟨name, f (t.elements name)⟩ := by
  have hg := get?_of_mem h
  simp only [get?, modify, List.find?_map] at hg ⊢
  have hp : ((fun s : Scene => decide (s.name = name)) ∘ fun s : Scene =>
      if s.name = name then { s with elements := f s.elements } else s)
      = fun s => decide (s.name = name) := by
    funext s
    simp only [Function.comp_apply]
    split <;> rfl
  rw [hp, hg]
  simp

lemma elements_modify (h : name ∈ t.names) :
    (t.modify name f).elements name = f (t.elements name) := by
  rw [elements, get?_modify h]
  rfl

lemma elements_of_mem (h : t.names.Nodup) {s : Scene} (hs : s ∈ t.scenes) :
    t.elements s.name = s.elements := by
  have hg := get?_of_mem (List.mem_map_of_mem hs : s.name ∈ t.names)
  have heq := List.inj_on_of_nodup_map h (List.mem_of_find?_eq_some hg) hs rfl
  exact congrArg Scene.elements heq

/-- Storing what is stored already changes nothing. -/
lemma modify_elements (h : t.names.Nodup) : (t.modify name fun _ => t.elements name) = t := by
  cases t with
  | mk scenes =>
    simp only [modify, mk.injEq]
    refine (List.map_congr_left fun s hs => ?_).trans (List.map_id scenes)
    split
    · rename_i hn
      subst hn
      rw [elements_of_mem h hs, id]
    · rfl

/-- Changing the elements of a new scene changes what it was added with. -/
lemma modify_add (h : name ∉ t.names) (es : List Element) :
    (t.add name es).modify name f = t.add name (f es) := by
  have ht := congrArg scenes (modify_of_notMem (f := f) h)
  simp only [modify] at ht
  simp [add, modify, ht]

/-- The elements under a new name are those under the old one. -/
lemma modify_relabel {new : String} (hn : new ∉ t.names) :
    (t.relabel name new).modify new f = (t.modify name f).relabel name new := by
  simp only [relabel, modify, List.map_map, mk.injEq]
  refine List.map_congr_left fun s hs => ?_
  have hs' : s.name ≠ new := fun h => hn (h ▸ List.mem_map_of_mem hs)
  simp only [Function.comp_apply]
  by_cases h : s.name = name
  · simp [h]
  · simp [h, hs']

lemma drop_modify : (t.modify name f).drop name = t.drop name := by
  simp only [drop, modify, List.filter_map, mk.injEq]
  have hp : ((fun s : Scene => decide (s.name ≠ name)) ∘ fun s : Scene =>
      if s.name = name then { s with elements := f s.elements } else s)
      = fun s => decide (s.name ≠ name) := by
    funext s
    simp only [Function.comp_apply]
    split <;> rfl
  rw [hp]
  refine (List.map_congr_left fun s hs => if_neg ?_).trans (List.map_id _)
  simpa using (List.mem_filter.mp hs).2

lemma mapElements_modify (h : Element → Element) (es : List Element) :
    (t.modify name fun _ => es).mapElements h
      = (t.mapElements h).modify name fun _ => es.map h := by
  simp only [mapElements, modify, List.map_map, mk.injEq]
  refine List.map_congr_left fun s _ => ?_
  simp only [Function.comp_apply]
  split <;> rfl

/-! ### What holds of every element -/

/-- Every element of the table has a property. -/
def Forall (P : Element → Prop) (t : SceneTable) : Prop :=
  ∀ s ∈ t.scenes, ∀ e ∈ s.elements, P e

section Forall

variable {P Q : Element → Prop}

lemma Forall.imp (h : t.Forall P) (hPQ : ∀ e, P e → Q e) : t.Forall Q :=
  fun s hs e he => hPQ e (h s hs e he)

lemma Forall.modify (h : t.Forall P)
    (hf : ∀ es : List Element, (∀ e ∈ es, P e) → ∀ e ∈ f es, P e) : (t.modify name f).Forall P := by
  intro s hs
  obtain ⟨r, hr, rfl⟩ := List.mem_map.mp hs
  split
  · exact hf r.elements (h r hr)
  · exact h r hr

lemma Forall.add (h : t.Forall P) {es : List Element} (hes : ∀ e ∈ es, P e) :
    (t.add name es).Forall P := by
  intro s hs
  rcases List.mem_append.mp hs with hs | hs
  · exact h s hs
  · obtain rfl := List.mem_singleton.mp hs
    exact hes

lemma Forall.relabel (h : t.Forall P) (old new : String) : (t.relabel old new).Forall P := by
  intro s hs
  obtain ⟨r, hr, rfl⟩ := List.mem_map.mp hs
  split <;> exact h r hr

lemma Forall.drop (h : t.Forall P) : (t.drop name).Forall P :=
  fun s hs => h s (List.mem_filter.mp hs).1

lemma Forall.mapElements (h : t.Forall P) {k : Element → Element} (hk : ∀ e, P e → Q (k e)) :
    (t.mapElements k).Forall Q := by
  intro s hs e he
  obtain ⟨r, hr, rfl⟩ := List.mem_map.mp hs
  obtain ⟨d, hd, rfl⟩ := List.mem_map.mp he
  exact hk d (h r hr d hd)

lemma Forall.elements (h : t.Forall P) (name : String) : ∀ e ∈ t.elements name, P e := by
  unfold SceneTable.elements
  cases hg : t.get? name with
  | none => simp
  | some s => exact h s (List.mem_of_find?_eq_some hg)

lemma forall_initial : initial.Forall P := by
  intro s hs
  obtain rfl := List.mem_singleton.mp hs
  simp

end Forall

/-! ### Tables that correspond -/

/-- The table without the elements that have no tag. -/
def typed (t : SceneTable) : SceneTable :=
  ⟨t.scenes.map fun s => { s with elements := s.elements.filter (·.kind.tag ≠ "") }⟩

lemma typed_eq (h : t.Forall fun e => e.kind.tag ≠ "") : t.typed = t := by
  obtain ⟨scenes⟩ := t
  simp only [typed, mk.injEq]
  refine (List.map_congr_left fun s hs => ?_).trans (List.map_id scenes)
  rw [List.filter_eq_self.mpr fun e he => by simpa using h s hs e he, id]

lemma Forall.typed {P : Element → Prop} (h : t.Forall P) : t.typed.Forall P := by
  intro s hs e he
  obtain ⟨r, hr, rfl⟩ := List.mem_map.mp hs
  exact h r hr e (List.mem_filter.mp he).1

@[simp] lemma names_typed (t : SceneTable) : t.typed.names = t.names := by
  simp [names, typed]

/-- The tables have scenes of the same names, and their elements are related one by one. -/
def Alike (R : Element → Element → Prop) (t u : SceneTable) : Prop :=
  List.Forall₂ (fun s s' => s'.name = s.name ∧ List.Forall₂ R s.elements s'.elements)
    t.scenes u.scenes

section Alike

variable {R S : Element → Element → Prop} {u : SceneTable}

/-- Elements that are changed on the right are related otherwise. -/
lemma Alike.mapElements (h : t.Alike R u) {k : Element → Element}
    (hk : ∀ e e', R e e' → S e (k e')) : t.Alike S (u.mapElements k) := by
  refine List.forall₂_map_right_iff.mpr (List.Forall₂.imp (fun _ _ hs => ?_) h)
  exact ⟨hs.1, List.forall₂_map_right_iff.mpr (hs.2.imp hk)⟩

lemma alike_mapElements {k : Element → Element} (h : t.Forall fun e => R e (k e)) :
    t.Alike R (t.mapElements k) := by
  refine List.forall₂_map_right_iff.mpr (List.forall₂_same.mpr fun s hs => ⟨rfl, ?_⟩)
  exact List.forall₂_map_right_iff.mpr (List.forall₂_same.mpr (h s hs))

lemma Alike.imp (h : t.Alike R u) (hRS : ∀ e e', R e e' → S e e') : t.Alike S u :=
  List.Forall₂.imp (fun _ _ hs => ⟨hs.1, hs.2.imp hRS⟩) h

/-- Elements of which something is known on the left are related otherwise. -/
lemma Alike.imp_forall {P : Element → Prop} (h : t.Alike R u) (ht : t.Forall P)
    (hRS : ∀ e e', P e → R e e' → S e e') : t.Alike S u := by
  refine List.Forall₂.imp (fun s s' hs => ?_) ((List.forall₂_and_left _ _).mpr ⟨ht, h⟩)
  obtain ⟨hP, hname, hR⟩ := hs
  exact ⟨hname, ((List.forall₂_and_left _ _).mpr ⟨hP, hR⟩).imp fun e e' he => hRS e e' he.1 he.2⟩

lemma Alike.names_eq (h : t.Alike R u) : u.names = t.names :=
  map_eq_of_forall₂ (List.Forall₂.imp (fun _ _ hs => hs.1) h)

/-- What elements have in common shows in the same places. -/
lemma Alike.map_eq {β : Type} {f g : Element → β} (h : t.Alike (fun e e' => f e' = g e) u) :
    u.scenes.map (fun s => (s.name, s.elements.map f))
      = t.scenes.map fun s => (s.name, s.elements.map g) := by
  refine map_eq_of_forall₂ (List.Forall₂.imp (fun s s' hs => ?_) h)
  rw [hs.1, map_eq_of_forall₂ hs.2]

end Alike

/-! ### Operations that succeed -/

lemma store?_of_mem (h : name ∈ t.names) (es : List Element) :
    t.store? name es = some (t.modify name fun _ => es) := by
  simp [store?, h]

lemma insert?_of_notMem (h₁ : name ≠ "") (h₂ : name ∉ t.names) (es : List Element) :
    t.insert? name es = some (t.add name es) := by
  simp [insert?, add, h₁, h₂]

lemma insert?_of_mem (h : name ∈ t.names) (es : List Element) : t.insert? name es = none := by
  simp [insert?, h]

lemma nextName_ne : t.nextName ≠ "" := by
  simp [nextName]

lemma rename?_of_mem {new : String} (h₁ : new ≠ "") (h₂ : new ∉ t.names) (h : name ∈ t.names) :
    t.rename? name new = some (t.relabel name new) := by
  simp [rename?, relabel, h₁, h₂, h]

/-! ### The scene after a removed one -/

/-- The name before another one in a row of names, or else the one after it. -/
def neighbour (name : String) (names : List String) : Option String :=
  (names.takeWhile (· ≠ name)).getLast?.or (names.dropWhile (· ≠ name)).tail.head?

/-- A name divides the table into what stands before its scene and what stands after. -/
lemma exists_split (h : name ∈ t.names) :
    ∃ before es after, t.scenes = before ++ ⟨name, es⟩ :: after
      ∧ name ∉ before.map Scene.name := by
  obtain ⟨-, before, after, hsplit, hb⟩ := List.find?_eq_some_iff_append.mp (get?_of_mem h)
  refine ⟨before, _, after, hsplit, fun hm => ?_⟩
  obtain ⟨s, hs, hn⟩ := List.mem_map.mp hm
  simpa [hn] using hb s hs

lemma fallback_split (before after : List Scene) (h : before ++ after ≠ []) :
    some ((⟨before ++ after⟩ : SceneTable).fallback before.length).name
      = (before.map Scene.name).getLast?.or (after.map Scene.name).head? := by
  rcases List.eq_nil_or_concat before with rfl | ⟨before, s, rfl⟩
  · cases after with
    | nil => exact absurd rfl h
    | cons s after => simp [fallback]
  · simp [fallback, size]

/-- The scene to show is in the table, whatever the place. -/
lemma Valid.fallback_place (h : t.Valid) (i : Nat) :
    t.scenes[min (i - 1) (t.size - 1)]? = some (t.fallback i) := by
  have hpos : 0 < t.scenes.length := List.length_pos_of_ne_nil h.1
  have hlt : min (i - 1) (t.size - 1) < t.scenes.length := by
    simp only [size]
    omega
  rw [fallback, List.getD_eq_getElem?_getD, List.getElem?_eq_getElem hlt]
  rfl

lemma fallback_mem (h : t.Valid) (i : Nat) : (t.fallback i).name ∈ t.names :=
  List.mem_map_of_mem (List.mem_of_getElem? (h.fallback_place i))

section Split

variable {before after : List Scene} {es : List Element}

lemma names_split (hsplit : t.scenes = before ++ ⟨name, es⟩ :: after) :
    t.names = before.map Scene.name ++ name :: after.map Scene.name := by
  simp [names, hsplit]

lemma ne_of_mem_names {l : List Scene} (hl : name ∉ l.map Scene.name) :
    ∀ n ∈ l.map Scene.name, decide (n ≠ name) = true := by
  intro n hn
  rw [decide_eq_true_eq]
  rintro rfl
  exact hl hn

lemma notMem_after (ht : t.names.Nodup) (hsplit : t.scenes = before ++ ⟨name, es⟩ :: after) :
    name ∉ after.map Scene.name := by
  rw [names_split hsplit] at ht
  exact (List.nodup_cons.mp (List.nodup_append.mp ht).2.1).1

lemma drop_split (hsplit : t.scenes = before ++ ⟨name, es⟩ :: after)
    (hb : name ∉ before.map Scene.name) (ha : name ∉ after.map Scene.name) :
    t.drop name = ⟨before ++ after⟩ := by
  simp only [drop, hsplit, List.filter_append, List.filter_cons, Keyed.filter_of_notMem hb,
    Keyed.filter_of_notMem ha]
  simp

lemma position?_split (hsplit : t.scenes = before ++ ⟨name, es⟩ :: after)
    (hb : name ∉ before.map Scene.name) : t.position? name = some before.length := by
  rw [position?, names_split hsplit, List.idxOf?_eq_some_iff]
  refine ⟨by simp, by simp, ?_⟩
  intro j hj
  have hj' : j < (before.map Scene.name).length := by simpa using hj
  rw [List.getElem_append_left hj']
  intro hjn
  exact hb (hjn ▸ List.getElem_mem hj')

lemma neighbour_split (hsplit : t.scenes = before ++ ⟨name, es⟩ :: after)
    (hb : name ∉ before.map Scene.name) :
    neighbour name t.names = (before.map Scene.name).getLast?.or (after.map Scene.name).head? := by
  rw [neighbour, names_split hsplit, List.takeWhile_append_of_pos (ne_of_mem_names hb),
    List.dropWhile_append_of_pos (ne_of_mem_names hb)]
  simp

end Split

/-- A removed scene takes nothing with it, and its neighbour is shown next. -/
lemma remove?_of_mem (ht : t.names.Nodup) (h : name ∈ t.names) (hs : 1 < t.size) :
    ∃ i s, t.remove? name = some (i, s, t.drop name)
      ∧ neighbour name t.names = some ((t.drop name).fallback i).name := by
  obtain ⟨before, es, after, hsplit, hb⟩ := exists_split h
  have hdrop := drop_split hsplit hb (notMem_after ht hsplit)
  refine ⟨before.length, ⟨name, t.elements name⟩, ?_, ?_⟩
  · have hbig : ¬ t.size ≤ 1 := by omega
    simp only [remove?, if_neg hbig, position?_split hsplit hb, get?_of_mem h, hdrop, hsplit]
    simp [List.eraseIdx_append_of_length_le]
  · have hnil : before ++ after ≠ [] := by
      intro hnil
      obtain ⟨rfl, rfl⟩ := List.append_eq_nil_iff.mp hnil
      simp [size, hsplit] at hs
    rw [hdrop, fallback_split before after hnil, neighbour_split hsplit hb]

lemma neighbour_mem (ht : t.Valid) (h : name ∈ t.names) (hs : 1 < t.size) {next : String}
    (hn : neighbour name t.names = some next) : next ∈ (t.drop name).names := by
  obtain ⟨i, s, -, hi⟩ := remove?_of_mem ht.2 h hs
  rw [hi, Option.some.injEq] at hn
  exact hn ▸ fallback_mem (ht.drop hs) i

/-! ### Names of elements -/

/-- The names of all elements, scene by scene. -/
def ids (t : SceneTable) : List ElementId :=
  t.scenes.flatMap fun s => s.elements.map (·.id)

@[simp] lemma ids_add (es : List Element) : (t.add name es).ids = t.ids ++ es.map (·.id) := by
  simp [ids, add]

lemma ids_mapElements {k : Element → Element} (hk : ∀ e, (k e).id = e.id) :
    (t.mapElements k).ids = t.ids := by
  simp [ids, mapElements, List.flatMap_map, Function.comp_def, hk]

lemma ids_typed_sublist (t : SceneTable) : t.typed.ids.Sublist t.ids := by
  obtain ⟨scenes⟩ := t
  simp only [ids, typed, List.flatMap_map]
  induction scenes with
  | nil => exact List.Sublist.refl _
  | cons s scenes ih =>
    simp only [List.flatMap_cons]
    exact (List.filter_sublist.map _).append ih

/-- The elements of a table are those of one scene and those of the others. -/
lemma ids_perm (ht : t.names.Nodup) (h : name ∈ t.names) :
    t.ids.Perm ((t.elements name).map (·.id) ++ (t.drop name).ids) := by
  obtain ⟨before, es, after, hsplit, hb⟩ := exists_split h
  have hes : t.elements name = es :=
    elements_of_mem ht (hsplit ▸ List.mem_append_right before List.mem_cons_self)
  rw [drop_split hsplit hb (notMem_after ht hsplit), hes]
  simp only [ids, hsplit, List.flatMap_append, List.flatMap_cons]
  exact List.perm_append_comm_assoc _ _ _

lemma elements_mapElements (k : Element → Element) :
    (t.mapElements k).elements name = (t.elements name).map k := by
  simp only [elements, get?, mapElements, List.find?_map, Function.comp_def]
  cases t.scenes.find? fun s => decide (s.name = name) <;> simp

lemma drop_mapElements (k : Element → Element) :
    (t.mapElements k).drop name = (t.drop name).mapElements k := by
  simp [drop, mapElements, List.filter_map, Function.comp_def]

lemma elements_relabel {new : String} (ht : t.names.Nodup) (hn : new ∉ t.names)
    (h : name ∈ t.names) : (t.relabel name new).elements new = t.elements name := by
  have hstored : ((t.relabel name new).modify new fun _ => t.elements name)
      = t.relabel name new := by
    rw [modify_relabel hn, modify_elements ht]
  have hmem : new ∈ (t.relabel name new).names := by
    rw [names_relabel]
    exact List.mem_map.mpr ⟨name, h, if_pos rfl⟩
  rw [← hstored, elements_modify hmem]

/-- Without the scene that has another name nothing shows that it had. -/
lemma drop_relabel {new : String} (hn : new ∉ t.names) :
    (t.relabel name new).drop new = t.drop name := by
  have hother : ∀ s ∈ t.scenes, s.name ≠ new :=
    fun s hs heq => hn (heq ▸ List.mem_map_of_mem hs)
  simp only [drop, relabel, List.filter_map, mk.injEq]
  have hp : ∀ s ∈ t.scenes, ((fun s : Scene => decide (s.name ≠ new)) ∘ fun s : Scene =>
      if s.name = name then { s with name := new } else s) s = decide (s.name ≠ name) := by
    intro s hs
    by_cases h : s.name = name <;> simp [h, hother s hs]
  rw [List.filter_congr hp]
  refine (List.map_congr_left fun s hs => if_neg ?_).trans (List.map_id _)
  simpa using (List.mem_filter.mp hs).2

/-! ### The first scene -/

lemma Valid.first_place (h : t.Valid) : t.scenes[0]? = some t.first := by
  rcases t with ⟨_ | ⟨s, l⟩⟩
  · exact absurd rfl h.1
  · rfl

lemma first_mem (h : t.Valid) : t.first.name ∈ t.names :=
  List.mem_map_of_mem (List.mem_of_getElem? h.first_place)

lemma initial_valid : initial.Valid := by
  simp [Valid, initial, names]

end SceneTable

end Storyboard
