import Mathlib.Data.List.Nodup
import Mathlib.Tactic.Common
import Storyboard.Element.Id

/-!
# Names with different numbers

The text of a name tells its number, whatever stands in its stem: the digits behind the last
underscore are those of the number. So a registry that numbers its names one after the other never
gives out a name twice.
-/

namespace Storyboard.ElementId

lemma underscore_notMem_digits (n : Nat) : '_' ∉ Nat.toDigits 10 n := by
  intro h
  have hdigit := Nat.isDigit_of_mem_toDigits (by decide) (by decide) h
  exact absurd hdigit (by decide)

/-- What stands behind the last underscore of a name is its number. -/
lemma takeWhile_numbered (stem : String) (n : Nat) :
    (numbered stem n).text.toList.reverse.takeWhile (· ≠ '_') = (Nat.toDigits 10 n).reverse := by
  have hdigits : ∀ c ∈ (Nat.toDigits 10 n).reverse, decide (c ≠ '_') = true := by
    intro c hc
    rw [decide_eq_true_eq]
    rintro rfl
    exact underscore_notMem_digits n (List.mem_reverse.mp hc)
  have htext : (numbered stem n).text.toList.reverse
      = (Nat.toDigits 10 n).reverse ++ '_' :: stem.toList.reverse := by
    simp [numbered, String.toList_append]
  rw [htext, List.takeWhile_append_of_pos hdigits]
  simp

/-- Names are equal only if their numbers are, whatever their stems. -/
theorem number_eq_of_numbered_eq {a b : String} {n m : Nat} (h : numbered a n = numbered b m) :
    n = m := by
  have htake := takeWhile_numbered a n
  rw [h, takeWhile_numbered, List.reverse_inj] at htake
  have hvalue := congrArg (Nat.ofDigitChars 10 · 0) htake
  simpa using hvalue.symm

/-- The stem of a name and its number are told from each other. -/
lemma numbered_inj {a b : String} {n m : Nat} : numbered a n = numbered b m ↔ a = b ∧ n = m := by
  constructor
  · intro h
    obtain rfl := number_eq_of_numbered_eq h
    have htext := congrArg (fun id => id.text.toList) h
    simp only [numbered, String.toList_append, List.append_assoc] at htext
    exact ⟨String.toList_inj.mp (List.append_cancel_right htext), rfl⟩
  · rintro ⟨rfl, rfl⟩
    rfl

/-- Names with some stems, numbered from `n` on. -/
def numberedFrom (n : Nat) (stems : List String) : List ElementId :=
  (stems.zipIdx n).map fun x => numbered x.1 x.2

@[simp] lemma numberedFrom_nil (n : Nat) : numberedFrom n [] = [] := rfl

lemma numberedFrom_cons (n : Nat) (stem : String) (stems : List String) :
    numberedFrom n (stem :: stems) = numbered stem n :: numberedFrom (n + 1) stems := rfl

lemma numberedFrom_append (n : Nat) (stems stems' : List String) :
    numberedFrom n (stems ++ stems')
      = numberedFrom n stems ++ numberedFrom (n + stems.length) stems' := by
  simp [numberedFrom, List.zipIdx_append]

namespace Registry

variable {r : Registry} {stem : String} {stems : List String} {id : ElementId}

/-- Names with some stems, one after the other. -/
def freshAll (r : Registry) : List String → List ElementId × Registry
  | [] => ([], r)
  | stem :: stems =>
    let first := r.fresh stem
    let others := first.2.freshAll stems
    (first.1 :: others.1, others.2)

/-- All names that were given out are numbered, below the next number. -/
def Sound (r : Registry) : Prop :=
  ∀ id ∈ r.known, ∃ stem k, id = numbered stem k ∧ k < r.next

lemma sound_empty : ({} : Registry).Sound := by
  simp [Sound]

/-! ### One name -/

@[simp] lemma fresh_fst : (r.fresh stem).1 = numbered stem r.next := rfl

@[simp] lemma fresh_next : (r.fresh stem).2.next = r.next + 1 := by
  simp only [fresh, intern]
  split <;> rfl

@[simp] lemma mem_known_fresh :
    id ∈ (r.fresh stem).2.known ↔ id = numbered stem r.next ∨ id ∈ r.known := by
  simp only [fresh, intern]
  split
  · rename_i hmem
    exact ⟨.inr, fun h => h.elim (fun heq => heq ▸ hmem) fun h => h⟩
  · exact List.mem_cons

/-- The next name was not given out before, whatever its stem. -/
lemma Sound.fresh_notMem (h : r.Sound) (stem : String) : (r.fresh stem).1 ∉ r.known := by
  intro hmem
  obtain ⟨stem', k, heq, hk⟩ := h _ hmem
  have hnumber : r.next = k := number_eq_of_numbered_eq heq
  omega

lemma Sound.fresh (h : r.Sound) (stem : String) : (r.fresh stem).2.Sound := by
  intro id hid
  rw [fresh_next]
  rcases mem_known_fresh.mp hid with rfl | hid
  · exact ⟨stem, r.next, rfl, Nat.lt_succ_self _⟩
  · obtain ⟨stem', k, rfl, hk⟩ := h id hid
    exact ⟨stem', k, rfl, Nat.lt_succ_of_lt hk⟩

/-! ### Names one after the other -/

@[simp] lemma freshAll_fst : (r.freshAll stems).1 = numberedFrom r.next stems := by
  induction stems generalizing r with
  | nil => rfl
  | cons stem stems ih => simp [freshAll, ih, numberedFrom_cons]

@[simp] lemma freshAll_next : (r.freshAll stems).2.next = r.next + stems.length := by
  induction stems generalizing r with
  | nil => rfl
  | cons stem stems ih =>
    simp only [freshAll, ih, fresh_next, List.length_cons]
    omega

@[simp] lemma mem_known_freshAll :
    id ∈ (r.freshAll stems).2.known ↔ id ∈ r.known ∨ id ∈ numberedFrom r.next stems := by
  induction stems generalizing r with
  | nil => simp [freshAll]
  | cons stem stems ih =>
    simp only [freshAll, ih, mem_known_fresh, fresh_next, numberedFrom_cons, List.mem_cons]
    tauto

lemma Sound.freshAll (h : r.Sound) (stems : List String) : (r.freshAll stems).2.Sound := by
  induction stems generalizing r with
  | nil => exact h
  | cons stem stems ih => exact ih (h.fresh stem)

/-- Names given out one after the other differ, from each other and from all before them. -/
theorem Sound.freshAll_new (h : r.Sound) (stems : List String) :
    (r.freshAll stems).1.Nodup ∧ ∀ id ∈ (r.freshAll stems).1, id ∉ r.known := by
  induction stems generalizing r with
  | nil => simp [Registry.freshAll]
  | cons stem stems ih =>
    obtain ⟨hnodup, hnew⟩ := ih (h.fresh stem)
    have hfirst : (r.fresh stem).1 ∉ ((r.fresh stem).2.freshAll stems).1 :=
      fun hmem => hnew _ hmem (mem_known_fresh.mpr (.inl rfl))
    refine ⟨List.nodup_cons.mpr ⟨hfirst, hnodup⟩, ?_⟩
    intro id hid
    rcases List.mem_cons.mp hid with rfl | hid
    · exact h.fresh_notMem stem
    · exact fun hknown => hnew id hid (mem_known_fresh.mpr (.inr hknown))

/-- Some names were given out since the beginning. -/
def Used (r : Registry) : Prop :=
  ∃ stems, (({} : Registry).freshAll stems).2 = r

lemma Used.sound (h : r.Used) : r.Sound := by
  obtain ⟨stems, rfl⟩ := h
  exact sound_empty.freshAll stems

/-- The next number may be any. -/
lemma exists_used (n : Nat) : ∃ r : Registry, r.Used ∧ r.next = n := by
  refine ⟨_, ⟨List.replicate n "", rfl⟩, ?_⟩
  simp

end Registry

end Storyboard.ElementId
