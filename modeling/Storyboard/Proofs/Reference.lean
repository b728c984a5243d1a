import Storyboard.Proofs.Interpolation

/-!
# Where a text refers to a name

A text refers to a name where a dollar sign stands right before it and where it does not go on
behind it. The names of a text are those to which it refers anywhere, in the order of the first
places.
-/

namespace Storyboard.Reference

variable {s name a b : List Char} {c : Char} {i : Nat}

/-- A name that a reference can have. -/
structure Word (name : List Char) : Prop where
  start : ∃ c cs, name = c :: cs ∧ isNameStart c = true
  chars : ∀ c ∈ name, isNameChar c = true

/-- A dollar sign and the name stand at a place of the text, and the name ends there. -/
def RefersAt (s : List Char) (i : Nat) (name : List Char) : Prop :=
  Word name ∧ ∃ before after, s = before ++ '$' :: (name ++ after) ∧ before.length = i ∧
    ∀ c, after.head? = some c → isNameChar c = false

/-- The text refers to the first name somewhere before it refers to the second one anywhere. -/
def Before (s a b : List Char) : Prop :=
  ∃ i, RefersAt s i a ∧ ∀ j, RefersAt s j b → i < j

/-! ### Single places -/

lemma takeWhile_isNameChar {after : List Char} (hname : Word name)
    (hafter : ∀ c, after.head? = some c → isNameChar c = false) :
    (name ++ after).takeWhile isNameChar = name := by
  rw [List.takeWhile_append_of_pos hname.chars]
  cases after with
  | nil => simp
  | cons c cs => simp [hafter c rfl]

/-- The name that is read at the start of a text is the word there. -/
lemma nameAt_eq_some : nameAt s = some name ↔
    Word name ∧ ∃ after, s = name ++ after ∧ ∀ c, after.head? = some c → isNameChar c = false := by
  constructor
  · intro h
    have htake := takeWhile_of_nameAt h
    refine ⟨⟨(isName_of_nameAt h).1, ?_⟩, s.dropWhile isNameChar, ?_, ?_⟩
    · rw [← htake]
      exact fun c hc => List.all_eq_true.mp List.all_takeWhile c hc
    · rw [← htake, List.takeWhile_append_dropWhile]
    · intro c hc
      have hdrop := List.head?_dropWhile_not isNameChar s
      rwa [hc] at hdrop
  · rintro ⟨hname, after, rfl, hafter⟩
    have htake := takeWhile_isNameChar hname hafter
    obtain ⟨c, cs, rfl, hc⟩ := hname.start
    have hdigit : c.isDigit = false := by
      simpa using (Bool.and_eq_true_iff.mp hc).2
    simp only [nameAt, htake, hdigit]
    rfl

@[simp] lemma not_refersAt_nil : ¬ RefersAt [] i name := by
  rintro ⟨-, before, after, h, -⟩
  simp at h

/-- A reference at the very start of a text. -/
lemma refersAt_zero : RefersAt (c :: s) 0 name ↔ c = '$' ∧ nameAt s = some name := by
  rw [nameAt_eq_some]
  constructor
  · rintro ⟨hname, before, after, h, hlength, hafter⟩
    obtain rfl := List.length_eq_zero_iff.mp hlength
    obtain ⟨rfl, rfl⟩ := List.cons.inj h
    exact ⟨rfl, hname, after, rfl, hafter⟩
  · rintro ⟨rfl, hname, after, rfl, hafter⟩
    exact ⟨hname, [], after, rfl, rfl, hafter⟩

/-- A reference further on is one of the rest of the text. -/
@[simp] lemma refersAt_succ : RefersAt (c :: s) (i + 1) name ↔ RefersAt s i name := by
  constructor
  · rintro ⟨hname, before, after, h, hlength, hafter⟩
    cases before with
    | nil => simp at hlength
    | cons d before =>
      obtain ⟨-, rfl⟩ := List.cons.inj h
      exact ⟨hname, before, after, rfl, Nat.succ.inj hlength, hafter⟩
  · rintro ⟨hname, before, after, rfl, hlength, hafter⟩
    exact ⟨hname, c :: before, after, rfl, congrArg Nat.succ hlength, hafter⟩

lemma exists_refersAt_cons : (∃ i, RefersAt (c :: s) i name) ↔
    (c = '$' ∧ nameAt s = some name) ∨ ∃ i, RefersAt s i name := by
  constructor
  · rintro ⟨_ | i, h⟩
    · exact .inl (refersAt_zero.mp h)
    · exact .inr ⟨i, refersAt_succ.mp h⟩
  · rintro (h | ⟨i, h⟩)
    · exact ⟨0, refersAt_zero.mpr h⟩
    · exact ⟨i + 1, refersAt_succ.mpr h⟩

/-! ### All names of a text -/

lemma scan_cons : scan (c :: s) = (if c = '$' then (nameAt s).toList else []) ++ scan s := by
  by_cases hc : c = '$'
  · cases hname : nameAt s <;> simp [scan, hc, hname]
  · simp [scan, hc]

/-- The names that are found in a text are those to which it refers. -/
lemma mem_scan : name ∈ scan s ↔ ∃ i, RefersAt s i name := by
  induction s with
  | nil => simp [scan]
  | cons c s ih =>
    rw [scan_cons, List.mem_append, ih, exists_refersAt_cons]
    by_cases hc : c = '$' <;> simp [hc]

lemma Before.ne (h : Before s a b) : a ≠ b := by
  rintro rfl
  obtain ⟨i, hi, hbefore⟩ := h
  exact Nat.lt_irrefl i (hbefore i hi)

/-- What is at the start of a text comes before everything else. -/
lemma before_of_zero (ha : RefersAt s 0 a) (hb : ¬ RefersAt s 0 b) : Before s a b := by
  refine ⟨0, ha, fun j hj => Nat.pos_of_ne_zero ?_⟩
  rintro rfl
  exact hb hj

/-- The order of two names is that in the rest of the text, if the text does not start with the
second one. -/
lemma Before.cons (h : Before s a b) (hb : ¬ RefersAt (c :: s) 0 b) : Before (c :: s) a b := by
  obtain ⟨i, hi, hbefore⟩ := h
  refine ⟨i + 1, refersAt_succ.mpr hi, fun j hj => ?_⟩
  cases j with
  | zero => exact absurd hj hb
  | succ j => exact Nat.succ_lt_succ (hbefore j (refersAt_succ.mp hj))

/-- Names without repetitions stand in the order of their first appearance, whichever of them are
picked. -/
lemma pairwise_eraseDups_filter (p : List Char → Bool) :
    ((scan s).filter p).eraseDups.Pairwise (Before s) := by
  induction s generalizing p with
  | nil => simp [scan]
  | cons c s ih =>
    have hlater {p : List Char → Bool} (hp : ∀ b, RefersAt (c :: s) 0 b → p b = false) :
        ((scan s).filter p).eraseDups.Pairwise (Before (c :: s)) := by
      refine (ih p).imp_of_mem fun _ hb h => h.cons fun hzero => ?_
      rw [List.mem_eraseDups, List.mem_filter, hp _ hzero] at hb
      exact absurd hb.2 (by decide)
    by_cases hc : c = '$'
    · cases hname : nameAt s with
      | none =>
        rw [scan_cons, if_pos hc, hname, Option.toList_none, List.nil_append]
        refine hlater fun b hb => ?_
        simp [refersAt_zero, hname] at hb
      | some n =>
        have honly {b : List Char} (hb : RefersAt (c :: s) 0 b) : b = n := by
          rw [refersAt_zero, hname] at hb
          exact (Option.some.inj hb.2).symm
        rw [scan_cons, if_pos hc, hname, Option.toList_some, List.singleton_append]
        cases hn : p n with
        | false =>
          rw [List.filter_cons_of_neg (by simp [hn])]
          exact hlater fun b hb => honly hb ▸ hn
        | true =>
          rw [List.filter_cons_of_pos hn, List.eraseDups_cons, List.filter_filter,
            List.pairwise_cons]
          refine ⟨fun b hb => ?_, hlater fun b hb => by simp [honly hb]⟩
          have hne : b ≠ n := by
            intro heq
            simp [heq] at hb
          refine before_of_zero (refersAt_zero.mpr ⟨hc, hname⟩) fun hzero => ?_
          exact hne (honly hzero)
    · rw [scan_cons, if_neg hc, List.nil_append]
      refine hlater fun b hb => ?_
      exact absurd (refersAt_zero.mp hb).1 hc

/-! ### Names as texts -/

/-- The text refers to the name somewhere. -/
def Refers (text name : String) : Prop :=
  ∃ i, RefersAt text.toList i name.toList

lemma mem_names {text name : String} : name ∈ names text ↔ Refers text name := by
  simp only [names, List.mem_map, List.mem_eraseDups, mem_scan, Refers]
  constructor
  · rintro ⟨n, hn, rfl⟩
    rwa [String.toList_ofList]
  · intro h
    exact ⟨name.toList, h, String.ofList_toList⟩

/-- The names of a text are in the order of their first appearance. -/
theorem pairwise_names (text : String) :
    (names text).Pairwise fun a b => Before text.toList a.toList b.toList := by
  have hscan := pairwise_eraseDups_filter (s := text.toList) fun _ => true
  rw [List.filter_true] at hscan
  refine List.pairwise_map.mpr (hscan.imp fun h => ?_)
  rwa [String.toList_ofList, String.toList_ofList]

end Storyboard.Reference
