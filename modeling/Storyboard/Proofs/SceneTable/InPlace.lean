import Storyboard.Proofs.SceneTable
import Storyboard.Scene.InPlace

/-!
# Operations on a table, place by place

A name stands in one place of a table, so changing the first scene of a name changes the scenes of
that name, and an operation in place ends as the same operation as a whole. What is left out of
account elsewhere counts here: in which place a scene stands, and which places stay as they were.
This holds of every table that operations make of a new one or of an accepted list of scenes.
-/

namespace Storyboard.SceneTable

variable {t u : SceneTable} {s r : Scene} {i j : Nat} {name : String}

/-! ### The place of a name -/

lemma isSome_findIdx?_iff :
    (t.scenes.findIdx? fun r => r.name = name).isSome = true ↔ name ∈ t.names := by
  simp [names]

lemma position?_place (ht : t.names.Nodup) (hs : t.scenes[i]? = some s) :
    t.position? s.name = some i := by
  rw [← Keyed.findIdx?_place ht hs, position?, names, List.idxOf?, List.findIdx?_map]
  rfl

lemma get?_place (ht : t.names.Nodup) (hs : t.scenes[i]? = some s) : t.get? s.name = some s := by
  rw [get?_of_mem (List.mem_map_of_mem (List.mem_of_getElem? hs)),
    elements_of_mem ht (List.mem_of_getElem? hs)]

/-! ### What an operation needs and does -/

/-- What has to hold of a table for an operation to be carried out. -/
def Operation.Allowed (t : SceneTable) : Operation → Prop
  | insert name _ => name ≠ "" ∧ name ∉ t.names
  | store name _ => name ∈ t.names
  | rename old new => old ∈ t.names ∧ new ≠ "" ∧ new ∉ t.names
  | remove name => name ∈ t.names ∧ 1 < t.size
  | fit _ _ => True

/-- How an operation that is carried out ends, place by place. -/
inductive Effect (t : SceneTable) : Operation → Answer → SceneTable → Prop
  | insert (name : String) (es : List Element) :
    Effect t (.insert name es) .done ⟨t.scenes ++ [⟨name, es⟩]⟩
  | store {i : Nat} {s : Scene} (hs : t.scenes[i]? = some s) (es : List Element) :
    Effect t (.store s.name es) .done ⟨t.scenes.set i ⟨s.name, es⟩⟩
  | rename {i : Nat} {s : Scene} (hs : t.scenes[i]? = some s) (new : String) :
    Effect t (.rename s.name new) .done ⟨t.scenes.set i ⟨new, s.elements⟩⟩
  | remove {i : Nat} {s : Scene} (hs : t.scenes[i]? = some s) :
    Effect t (.remove s.name) (.removed i s) ⟨t.scenes.eraseIdx i⟩
  | fit (canvas : Canvas) (fonts : FontSizes) :
    Effect t (.fit canvas fonts) .done
      ⟨t.scenes.map fun s => ⟨s.name, s.elements.map (·.fit canvas fonts)⟩⟩

variable {op : Operation} {a : Answer}

lemma Effect.valid (h : Effect t op a u) (ht : t.Valid) (hop : op.Allowed t) : u.Valid := by
  cases h with
  | insert name es => exact ht.add hop.2 es
  | store hs es =>
    rw [← Keyed.map_eq_set ht.2 hs fun r => ⟨r.name, es⟩]
    exact ht.modify (f := fun _ => es)
  | rename hs new =>
    rw [← Keyed.map_eq_set ht.2 hs fun r => ⟨new, r.elements⟩]
    exact ht.relabel hop.2.2
  | remove hs =>
    refine ⟨fun hnil => ?_, ht.2.sublist ((List.eraseIdx_sublist _ _).map _)⟩
    have hlength := congrArg List.length hnil
    rw [List.length_eraseIdx_of_lt (List.getElem?_eq_some_iff.mp hs).1] at hlength
    have hsize : 1 < t.scenes.length := hop.2
    simp only [List.length_nil] at hlength
    omega
  | fit canvas fonts => exact ht.mapElements _

/-! ### Operations in place -/

lemma run_find {α : Type} (f : Option Nat → StateM SceneTable α) :
    (find name >>= f).run t = (f (t.scenes.findIdx? fun r => r.name = name)).run t := rfl

lemma run_get {α : Type} (f : SceneTable → StateM SceneTable α) :
    (get >>= f).run t = (f t).run t := rfl

lemma run_change_place (ht : t.names.Nodup) (hs : t.scenes[i]? = some s) (f : Scene → Scene) :
    (change s.name f).run t = (.done, ⟨t.scenes.set i (f s)⟩) := by
  simp only [change, run_find, Keyed.findIdx?_place ht hs, ← Keyed.modify_place hs]
  rfl

lemma run_change_of_notMem (h : name ∉ t.names) (f : Scene → Scene) :
    (change name f).run t = (.refused, t) := by
  simp only [change, run_find, Keyed.findIdx?_of_notMem h]
  rfl

lemma run_takeOut_place (hs : t.scenes[i]? = some s) :
    (takeOut i).run t = (.removed i s, ⟨t.scenes.eraseIdx i⟩) := by
  simp only [takeOut, run_get, hs]
  rfl

/-- An operation that a table allows is carried out, in place and as a whole. -/
lemma Operation.Allowed.effect (hop : op.Allowed t) (ht : t.names.Nodup) :
    ∃ a u, op.carryOut.run t = (a, u) ∧ op.perform? t = some (a, u) ∧ Effect t op a u := by
  cases op with
  | insert name es =>
    obtain ⟨hname, hnew⟩ := hop
    refine ⟨_, _, ?_, ?_, .insert name es⟩
    · have hfree : ¬(name = "" ∨ (none : Option Nat).isSome) := by simp [hname]
      simp only [Operation.carryOut, run_find, Keyed.findIdx?_of_notMem hnew, if_neg hfree]
      rfl
    · rw [Operation.perform?, insert?_of_notMem hname hnew]
      rfl
  | store name es =>
    obtain ⟨i, s, hs, rfl⟩ := Keyed.exists_place hop
    refine ⟨_, _, run_change_place ht hs _, ?_, .store hs es⟩
    rw [Operation.perform?, store?_of_mem hop, ← Keyed.map_eq_set ht hs fun r => ⟨r.name, es⟩]
    rfl
  | rename old new =>
    obtain ⟨hold, hne, hnew⟩ := hop
    obtain ⟨i, s, hs, rfl⟩ := Keyed.exists_place hold
    refine ⟨_, _, ?_, ?_, .rename hs new⟩
    · have hfree : ¬(new = "" ∨ (none : Option Nat).isSome) := by simp [hne]
      simp only [Operation.carryOut, run_find, Keyed.findIdx?_of_notMem hnew, if_neg hfree]
      exact run_change_place ht hs _
    · rw [Operation.perform?, rename?_of_mem hne hnew hold,
        ← Keyed.map_eq_set ht hs fun r => ⟨new, r.elements⟩]
      rfl
  | remove name =>
    obtain ⟨hmem, hsize⟩ := hop
    obtain ⟨i, s, hs, rfl⟩ := Keyed.exists_place hmem
    have hmany : ¬ t.size ≤ 1 := Nat.not_le.mpr hsize
    refine ⟨_, _, ?_, ?_, .remove hs⟩
    · simp only [Operation.carryOut, run_get, hmany, if_false, run_find,
        Keyed.findIdx?_place ht hs]
      exact run_takeOut_place hs
    · simp only [Operation.perform?, remove?, if_neg hmany, position?_place ht hs, get?_place ht hs]
      rfl
  | fit canvas fonts => exact ⟨_, _, rfl, rfl, .fit canvas fonts⟩

/-- An operation that a table does not allow is refused, in place and as a whole. -/
lemma Operation.refused_of_not_allowed (hop : ¬ op.Allowed t) :
    op.carryOut.run t = (.refused, t) ∧ op.perform? t = none := by
  cases op with
  | insert name es =>
    have hbad : name = "" ∨ name ∈ t.names := by simpa [Allowed, or_iff_not_imp_left] using hop
    refine ⟨?_, by simp [Operation.perform?, insert?, hbad]⟩
    simp only [Operation.carryOut, run_find, isSome_findIdx?_iff, if_pos hbad]
    rfl
  | store name es =>
    have hname : name ∉ t.names := hop
    exact ⟨run_change_of_notMem hname _, by simp [Operation.perform?, store?, hname]⟩
  | rename old new =>
    by_cases hbad : new = "" ∨ new ∈ t.names
    · refine ⟨?_, by simp [Operation.perform?, rename?, hbad]⟩
      simp only [Operation.carryOut, run_find, isSome_findIdx?_iff, if_pos hbad]
      rfl
    · have hold : old ∉ t.names := fun hold => hop ⟨hold, not_or.mp hbad⟩
      refine ⟨?_, by simp [Operation.perform?, rename?, hold]⟩
      simp only [Operation.carryOut, run_find, isSome_findIdx?_iff,
        if_neg hbad]
      exact run_change_of_notMem hold _
  | remove name =>
    by_cases hsize : t.size ≤ 1
    · refine ⟨?_, by simp [Operation.perform?, remove?, hsize]⟩
      simp only [Operation.carryOut, run_get, if_pos hsize]
      rfl
    · have hname : name ∉ t.names := fun hname => hop ⟨hname, Nat.lt_of_not_le hsize⟩
      have hposition : t.position? name = none := List.idxOf?_eq_none_iff.mpr hname
      refine ⟨?_, by simp [Operation.perform?, remove?, hposition]⟩
      simp only [Operation.carryOut, run_get, if_neg hsize,
        run_find, Keyed.findIdx?_of_notMem hname]
      rfl
  | fit canvas fonts => exact absurd trivial hop

/-! ### After a removal -/

/-- When a scene was removed the one before it is shown, or the one after it if it was the
first. -/
lemma fallback_eraseIdx (ht : 1 < t.size) (hi : i < t.size) :
    some ((⟨t.scenes.eraseIdx i⟩ : SceneTable).fallback i)
      = if i = 0 then t.scenes[1]? else t.scenes[i - 1]? := by
  have hsize : (⟨t.scenes.eraseIdx i⟩ : SceneTable).size = t.size - 1 :=
    List.length_eraseIdx_of_lt hi
  have hlt : min (i - 1) (t.size - 1 - 1) < (t.scenes.eraseIdx i).length := by
    rw [List.length_eraseIdx_of_lt hi]
    simp only [size] at ht hi ⊢
    omega
  rw [fallback, hsize, List.getD_eq_getElem?_getD, List.getElem?_eq_getElem hlt, Option.getD_some,
    ← List.getElem?_eq_getElem hlt, List.getElem?_eraseIdx]
  rcases Nat.eq_zero_or_pos i with rfl | hpos
  · simp
  · have hmin : min (i - 1) (t.size - 1 - 1) = i - 1 := by omega
    rw [hmin, if_pos (by omega), if_neg (by omega)]

/-! ### Runs -/

/-- Every name is new where it stands if and only if all names differ. -/
lemma allNew_iff (scenes : List Scene) :
    allNew scenes = true ↔ (scenes.map (·.name)).Nodup := by
  rw [allNew, List.Nodup, List.pairwise_map, List.pairwise_iff_getElem, List.all_eq_true]
  constructor
  · intro h i j hi hj hij
    have hnew := h (scenes[j], j) (List.mem_zipIdx_iff_getElem?.mpr (List.getElem?_eq_getElem hj))
    have hmem : scenes[i] ∈ scenes.take j :=
      List.mem_take_iff_getElem.mpr ⟨i, Nat.lt_min.mpr ⟨hij, hi⟩, rfl⟩
    simp only [Bool.not_eq_true', List.any_eq_false, decide_eq_true_eq] at hnew
    exact hnew _ hmem
  · rintro h ⟨s, j⟩ hs
    have hplace : scenes[j]? = some s := List.mem_zipIdx_iff_getElem?.mp hs
    obtain ⟨hj, rfl⟩ := List.getElem?_eq_some_iff.mp hplace
    simp only [Bool.not_eq_true', List.any_eq_false, decide_eq_true_eq]
    rintro r hr
    obtain ⟨i, hi, rfl⟩ := List.mem_take_iff_getElem.mp hr
    exact h i j _ hj (Nat.lt_min.mp hi).1

lemma accept?_eq_ofScenes? (scenes : List Scene) : accept? scenes = ofScenes? scenes := by
  simp only [accept?, ofScenes?, allNew_iff, List.isEmpty_iff]
  by_cases h : scenes = [] <;> simp [h]

lemma accept?_eq_some_iff {scenes : List Scene} :
    accept? scenes = some t ↔ t = ⟨scenes⟩ ∧ t.Valid := by
  rw [accept?_eq_ofScenes?, ofScenes?, Option.ite_none_right_eq_some, Option.some.injEq, eq_comm,
    and_comm]
  refine and_congr_right fun h => ?_
  subst h
  rfl

/-- One operation keeps a table valid, whether it is carried out or refused. -/
lemma Valid.run_carryOut (ht : t.Valid) (op : Operation) : (op.carryOut.run t).2.Valid := by
  by_cases hop : op.Allowed t
  · obtain ⟨a, u, hrun, -, heffect⟩ := hop.effect ht.2
    rw [hrun]
    exact heffect.valid ht hop
  · rw [(Operation.refused_of_not_allowed hop).1]
    exact ht

/-- So does a run of operations. -/
lemma Valid.after (ht : t.Valid) (ops : List Operation) : (t.after ops).Valid := by
  induction ops generalizing t with
  | nil => exact ht
  | cons op ops ih => exact ih (ht.run_carryOut op)

/-- The scene that is shown when one was removed from a valid table. -/
lemma Valid.fallback_removed (ht : t.Valid)
    (hrun : (Operation.remove name).carryOut.run t = (.removed i s, u)) :
    some (u.fallback i) = if i = 0 then t.scenes[1]? else t.scenes[i - 1]? := by
  by_cases hop : (Operation.remove name).Allowed t
  · obtain ⟨a, u', hrun', -, heffect⟩ := hop.effect ht.2
    obtain ⟨rfl, rfl⟩ := Prod.mk.inj (hrun.symm.trans hrun')
    cases heffect with
    | remove hs => exact fallback_eraseIdx hop.2 (List.getElem?_eq_some_iff.mp hs).1
  · rw [(Operation.refused_of_not_allowed hop).1] at hrun
    cases hrun

/-- Scenes are accepted as a table if and only if there are some and their names differ. Whatever
operations are tried on an accepted or a new table, it stays such, so there is a scene to open on
and one to show, whatever the place of a removed one. An operation is carried out if and only if it
is allowed, in place as well as as a whole, and then does to the places what `Effect` says; one that
is refused leaves the table as it was. After a removal the scene before the removed one is shown,
or the one after it if it was the first. -/
theorem effect_after :
    (∀ scenes, accept? scenes = ofScenes? scenes ∧
      ∀ t, accept? scenes = some t ↔ t = ⟨scenes⟩ ∧ t.Valid) ∧
    ∀ start, (start = initial ∨ ∃ scenes, accept? scenes = some start) → ∀ ops,
      let t := start.after ops
      t.Valid ∧ t.scenes[0]? = some t.first ∧
      (∀ i, t.scenes[min (i - 1) (t.size - 1)]? = some (t.fallback i)) ∧
      (∀ op : Operation,
        op.carryOut.run t = (op.perform? t).getD (.refused, t) ∧
        (op.Allowed t → Effect t op (op.carryOut.run t).1 (op.carryOut.run t).2) ∧
        (¬ op.Allowed t → op.carryOut.run t = (.refused, t))) ∧
      ∀ name i s u, (Operation.remove name).carryOut.run t = (.removed i s, u) →
        some (u.fallback i) = if i = 0 then t.scenes[1]? else t.scenes[i - 1]? := by
  refine ⟨fun scenes => ⟨accept?_eq_ofScenes? scenes, fun t => accept?_eq_some_iff⟩, ?_⟩
  intro start hstart ops t
  have hvalid : start.Valid := by
    rcases hstart with rfl | ⟨scenes, hscenes⟩
    · exact initial_valid
    · exact (accept?_eq_some_iff.mp hscenes).2
  have ht : t.Valid := hvalid.after ops
  refine ⟨ht, ht.first_place, ht.fallback_place, fun op => ?_,
    fun name i s u => ht.fallback_removed⟩
  by_cases hop : op.Allowed t
  · obtain ⟨a, u, hrun, hperform, heffect⟩ := hop.effect ht.2
    rw [hrun, hperform]
    exact ⟨rfl, fun _ => heffect, fun hnot => absurd hop hnot⟩
  · obtain ⟨hrun, hperform⟩ := Operation.refused_of_not_allowed hop
    rw [hperform]
    exact ⟨hrun, fun hyes => absurd hyes hop, fun _ => hrun⟩

/-- The first of three scenes cannot take the name of the last one before that is removed; when it
is removed itself later, the scene after it is shown. -/
theorem effect_after_three :
    let scenes : List Scene := [⟨"Attic", []⟩, ⟨"Hall", []⟩, ⟨"Cellar", []⟩]
    let ops : List Operation :=
      [.rename "Attic" "Cellar", .remove "Cellar", .rename "Attic" "Cellar", .insert "Hall" []]
    let t : SceneTable := ⟨[⟨"Cellar", []⟩, ⟨"Hall", []⟩]⟩
    accept? scenes = some ⟨scenes⟩ ∧ (⟨scenes⟩ : SceneTable).after ops = t ∧ t.Valid ∧
      (Operation.remove "Cellar").carryOut.run t = (.removed 0 ⟨"Cellar", []⟩, ⟨[⟨"Hall", []⟩]⟩) ∧
      some ((⟨[⟨"Hall", []⟩]⟩ : SceneTable).fallback 0) = t.scenes[1]? := by
  intro scenes ops t
  have haccept : accept? scenes = some ⟨scenes⟩ := by decide
  have hafter : (⟨scenes⟩ : SceneTable).after ops = t := by decide
  have hremove : (Operation.remove "Cellar").carryOut.run t
      = (.removed 0 ⟨"Cellar", []⟩, ⟨[⟨"Hall", []⟩]⟩) := rfl
  obtain ⟨hvalid, -, -, -, hfallback⟩ := effect_after.2 ⟨scenes⟩ (.inr ⟨scenes, haccept⟩) ops
  rw [hafter] at hvalid hfallback
  exact ⟨haccept, hafter, hvalid, hremove, hfallback _ _ _ _ hremove⟩

end Storyboard.SceneTable
