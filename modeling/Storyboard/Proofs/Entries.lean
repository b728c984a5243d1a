import Mathlib.Data.List.Nodup
import Mathlib.Tactic.Common
import Storyboard.Entries

/-!
# Entries without repeated names

Where no key repeats, a key stands in one place, and what is done to all that has the key is done
there. Every operation on entries keeps names different that were different. A new name goes to the
end, so putting in new names one after the other appends them.
-/

namespace Storyboard

/-- Lists that agree entry by entry in what functions say of them agree as a whole. -/
lemma map_eq_of_forall₂ {α β γ : Type} {f : α → γ} {g : β → γ} {xs : List α} {ys : List β}
    (h : List.Forall₂ (fun x y => g y = f x) xs ys) : ys.map g = xs.map f := by
  induction h with
  | nil => rfl
  | cons hxy _ ih => rw [List.map_cons, List.map_cons, hxy, ih]

/-! ### The place of a key -/

namespace Keyed

variable {α κ : Type} {key : α → κ} {l : List α} {x y : α} {i j : Nat} {name : κ}

lemma exists_place (h : name ∈ l.map key) : ∃ (i : Nat) (x : α), l[i]? = some x ∧ key x = name := by
  obtain ⟨x, hx, hname⟩ := List.mem_map.mp h
  obtain ⟨i, hi⟩ := List.mem_iff_getElem?.mp hx
  exact ⟨i, x, hi, hname⟩

/-- What has one key stands in one place. -/
lemma place_unique (hl : (l.map key).Nodup) (hy : l[j]? = some y) (hx : l[i]? = some x)
    (hkey : key y = key x) : j = i := by
  have hlt : j < (l.map key).length := by
    simpa using (List.getElem?_eq_some_iff.mp hy).1
  refine (List.getElem?_inj hlt hl).mp ?_
  rw [List.getElem?_map, List.getElem?_map, hy, hx, Option.map_some, Option.map_some, hkey]

lemma modify_place (hx : l[i]? = some x) (f : α → α) : l.modify i f = l.set i (f x) := by
  rw [List.modify_eq_set_getElem?, hx]
  rfl

variable [DecidableEq κ]

lemma findIdx?_place (hl : (l.map key).Nodup) (hx : l[i]? = some x) :
    l.findIdx? (fun y => key y = key x) = some i := by
  obtain ⟨hi, hget⟩ := List.getElem?_eq_some_iff.mp hx
  refine List.findIdx?_eq_some_iff_getElem.mpr ⟨hi, by simp [hget], fun j hj => ?_⟩
  have hne : key l[j] ≠ key x := fun hkey =>
    Nat.ne_of_lt hj (place_unique hl (List.getElem?_eq_getElem (Nat.lt_trans hj hi)) hx hkey)
  simpa using hne

lemma findIdx?_of_notMem (h : name ∉ l.map key) : l.findIdx? (fun y => key y = name) = none := by
  rw [List.findIdx?_eq_none_iff]
  rintro y hy
  rw [decide_eq_false_iff_not]
  rintro rfl
  exact h (List.mem_map_of_mem hy)

lemma filter_of_notMem (h : name ∉ l.map key) : (l.filter fun y => key y ≠ name) = l := by
  rw [List.filter_eq_self]
  rintro y hy
  rw [decide_eq_true_eq]
  rintro rfl
  exact h (List.mem_map_of_mem hy)

/-- Changing all that has a key changes what stands in its place. -/
lemma map_eq_set (hl : (l.map key).Nodup) (hx : l[i]? = some x) (f : α → α) :
    (l.map fun y => if key y = key x then f y else y) = l.set i (f x) := by
  refine List.ext_getElem? fun j => ?_
  rw [List.getElem?_map, List.getElem?_set]
  split
  · rename_i hij
    subst hij
    obtain ⟨hi, rfl⟩ := List.getElem?_eq_some_iff.mp hx
    simp [hi]
  · rename_i hij
    cases hy : l[j]? with
    | none => rfl
    | some y =>
      have hne : key y ≠ key x := fun hkey => hij (place_unique hl hy hx hkey).symm
      simp [hne]

lemma modify_eq_map (hl : (l.map key).Nodup) (hx : l[i]? = some x) (f : α → α) :
    l.modify i f = l.map fun y => if key y = key x then f y else y :=
  (modify_place hx f).trans (map_eq_set hl hx f).symm

/-- Taking out what stands in its place leaves all that has another key. -/
lemma eraseIdx_eq_filter (hl : (l.map key).Nodup) (hx : l[i]? = some x) :
    l.eraseIdx i = l.filter fun y => key y ≠ key x := by
  induction l generalizing i with
  | nil => rfl
  | cons y l ih =>
    obtain ⟨hy, hl⟩ := List.nodup_cons.mp hl
    cases i with
    | zero =>
      obtain rfl : y = x := Option.some.inj hx
      rw [List.eraseIdx_cons_zero, List.filter_cons_of_neg (by simp), filter_of_notMem hy]
    | succ i =>
      have hx' : l[i]? = some x := hx
      have hne : key y ≠ key x := fun hkey =>
        hy (hkey ▸ List.mem_map_of_mem (List.mem_of_getElem? hx'))
      rw [List.eraseIdx_cons_succ, ih hl hx', List.filter_cons_of_pos (by simpa using hne)]

end Keyed

namespace Entries

variable {β : Type} {name : String} {es : List (String × β)}

lemma nodup_put (h : (names es).Nodup) (name : String) (value : β) :
    (names (put name value es)).Nodup := by
  rw [names_put]
  split
  · exact h
  · rename_i hmem
    exact List.nodup_append'.mpr ⟨h, List.nodup_singleton _, by simpa using hmem⟩

lemma mem_put {value : β} {e : String × β} (h : e ∈ put name value es) :
    e = (name, value) ∨ e ∈ es := by
  induction es with
  | nil => exact .inl (List.mem_singleton.mp h)
  | cons d es ih =>
    rw [put] at h
    split at h
    · rename_i hd
      rcases List.mem_cons.mp h with rfl | h
      · exact .inl (by rw [hd])
      · exact .inr (List.mem_cons_of_mem d h)
    · rcases List.mem_cons.mp h with rfl | h
      · exact .inr List.mem_cons_self
      · exact (ih h).imp_right (List.mem_cons_of_mem d)

lemma put_of_notMem (h : name ∉ names es) (value : β) :
    put name value es = es ++ [(name, value)] := by
  induction es with
  | nil => rfl
  | cons e es ih =>
    obtain ⟨hne, hes⟩ : e.1 ≠ name ∧ name ∉ names es := by
      simpa [names_cons, eq_comm] using h
    rw [put, if_neg hne, ih hes, List.cons_append]

lemma get?_put (name key : String) (value : β) (es : List (String × β)) :
    get? key (put name value es) = if name = key then some value else get? key es := by
  induction es with
  | nil => rfl
  | cons e es ih =>
    rw [put]
    split
    · rename_i he
      simp only [get?, he]
      split <;> rfl
    · rename_i he
      simp only [get?, ih]
      split
      · rename_i hkey
        rw [if_neg fun hname => he (hkey.trans hname.symm)]
      · rfl

/-! ### First entries and all entries -/

lemma map_of_notMem (h : name ∉ names es) (f : String × β → String × β) :
    (es.map fun e => if e.1 = name then f e else e) = es := by
  refine (List.map_congr_left fun e he => if_neg ?_).trans (List.map_id es)
  rintro rfl
  exact h (List.mem_map_of_mem he)

lemma put_eq_map (hes : (names es).Nodup) (h : name ∈ names es) (value : β) :
    put name value es = es.map fun e => if e.1 = name then (e.1, value) else e := by
  induction es with
  | nil => cases h
  | cons e es ih =>
    obtain ⟨he, hes⟩ := List.nodup_cons.mp hes
    rw [put, List.map_cons]
    split
    · rename_i hname
      rw [map_of_notMem (hname ▸ he)]
    · rename_i hname
      rw [ih hes ((List.mem_cons.mp h).resolve_left (Ne.symm hname))]

lemma rename_eq_map (hes : (names es).Nodup) (old new : String) :
    rename old new es = es.map fun e => if e.1 = old then (new, e.2) else e := by
  induction es with
  | nil => rfl
  | cons e es ih =>
    obtain ⟨he, hes⟩ := List.nodup_cons.mp hes
    rw [rename, List.map_cons]
    split
    · rename_i hname
      rw [map_of_notMem (hname ▸ he)]
    · rw [ih hes]

lemma erase_eq_filter (hes : (names es).Nodup) (name : String) :
    erase name es = es.filter fun e => e.1 ≠ name := by
  induction es with
  | nil => rfl
  | cons e es ih =>
    obtain ⟨he, hes⟩ := List.nodup_cons.mp hes
    rw [erase]
    split
    · rename_i hname
      rw [List.filter_cons_of_neg (by simpa using hname), Keyed.filter_of_notMem (hname ▸ he)]
    · rename_i hname
      rw [List.filter_cons_of_pos (by simpa using hname), ih hes]

lemma get?_of_mem (hes : (names es).Nodup) {e : String × β} (he : e ∈ es) :
    get? e.1 es = some e.2 := by
  induction es with
  | nil => cases he
  | cons d es ih =>
    obtain ⟨hd, hes⟩ := List.nodup_cons.mp hes
    rcases List.mem_cons.mp he with rfl | he
    · rw [get?, if_pos rfl]
    · have hmem : e.1 ∈ names es := List.mem_map_of_mem he
      have hne : d.1 ≠ e.1 := fun hname => hd (show d.1 ∈ names es from hname ▸ hmem)
      rw [get?, if_neg hne, ih hes he]

/-! ### Entries of other names -/

lemma get?_rename {key old new : String} (hold : old ≠ key) (hnew : new ≠ key) :
    get? key (rename old new es) = get? key es := by
  induction es with
  | nil => rfl
  | cons e es ih =>
    rw [rename]
    split
    · rename_i he
      rw [get?, get?, if_neg hnew, if_neg (he ▸ hold)]
    · rw [get?, get?, ih]

lemma get?_erase {key : String} (h : name ≠ key) : get? key (erase name es) = get? key es := by
  induction es with
  | nil => rfl
  | cons e es ih =>
    rw [erase]
    split
    · rename_i he
      rw [get?, if_neg (he ▸ h)]
    · rw [get?, get?, ih]

/-- An entry of a new name that stands before others does not hide any of them. -/
lemma notMem_of_nodup_append {e : String × β} {fs : List (String × β)}
    (h : (names (es ++ e :: fs)).Nodup) : e.1 ∉ names es := by
  intro hmem
  simp only [names, List.map_append, List.map_cons] at h hmem
  exact (List.nodup_append'.mp h).2.2 hmem (by simp)

lemma names_rename_subset {old new : String} :
    ∀ k ∈ names (rename old new es), k = new ∨ k ∈ names es := by
  induction es with
  | nil => simp [rename]
  | cons e es ih =>
    intro k hk
    rw [rename] at hk
    split at hk
    · rcases List.mem_cons.mp hk with rfl | hk
      · exact .inl rfl
      · exact .inr (List.mem_cons_of_mem _ hk)
    · rcases List.mem_cons.mp hk with rfl | hk
      · exact .inr List.mem_cons_self
      · exact (ih k hk).imp id (List.mem_cons_of_mem _)

lemma nodup_rename {old new : String} (h : (names es).Nodup) (hn : new ∉ names es) :
    (names (rename old new es)).Nodup := by
  induction es with
  | nil => exact List.nodup_nil
  | cons e es ih =>
    obtain ⟨he, hes⟩ := List.nodup_cons.mp h
    obtain ⟨hne, hnes⟩ : new ≠ e.1 ∧ new ∉ names es := by simpa using hn
    rw [rename]
    split
    · exact List.nodup_cons.mpr ⟨hnes, hes⟩
    · refine List.nodup_cons.mpr ⟨fun hmem => ?_, ih hes hnes⟩
      rcases names_rename_subset _ hmem with heq | hmem
      · exact hne heq.symm
      · exact he hmem

end Entries

end Storyboard
