import Storyboard.Proofs.Variables
import Storyboard.Variables.InPlace

/-!
# A store as a map in order of insertion

The rules of such a map are said without places: what has a name is changed or taken out, and what
is new goes to the end. A store finds the first entry of a name only, so it keeps to the rules as
long as no name repeats, and as it keeps to them none does.
-/

namespace Storyboard.VariableStore

/-! ### The rules -/

/-- What has to hold of the entries for an operation to be carried out. -/
def Operation.Allowed (es : List (String × String)) : Operation → Prop
  | add name => name ≠ "" ∧ isReserved name = false ∧ name ∉ Entries.names es
  | insert _ _ => True
  | set name _ => name ∈ Entries.names es
  | rename old new =>
    old ∈ Entries.names es ∧ new ≠ "" ∧ isReserved new = false ∧ new ∉ Entries.names es
  | remove name => name ∈ Entries.names es
  | clear => True

instance (es : List (String × String)) : DecidablePred (Operation.Allowed es)
  | .add _ => inferInstanceAs (Decidable (_ ∧ _ ∧ _))
  | .insert _ _ => inferInstanceAs (Decidable True)
  | .set _ _ => inferInstanceAs (Decidable (_ ∈ _))
  | .rename _ _ => inferInstanceAs (Decidable (_ ∧ _ ∧ _ ∧ _))
  | .remove _ => inferInstanceAs (Decidable (_ ∈ _))
  | .clear => inferInstanceAs (Decidable True)

/-- What an operation makes of entries that allow it. -/
def Operation.change (es : List (String × String)) : Operation → List (String × String)
  | add name => es ++ [(name, "")]
  | insert name value =>
    if name ∈ Entries.names es then es.map fun e => if e.1 = name then (e.1, value) else e
    else es ++ [(name, value)]
  | set name value => es.map fun e => if e.1 = name then (e.1, value) else e
  | rename old new => es.map fun e => if e.1 = old then (new, e.2) else e
  | remove name => es.filter fun e => e.1 ≠ name
  | clear => []

/-- What an operation makes of entries. -/
def Operation.rule (es : List (String × String)) (op : Operation) : List (String × String) :=
  if op.Allowed es then op.change es else es

/-- What an operation does to the first entry of a name, or at the end. -/
def Operation.changeFirst (es : List (String × String)) : Operation → List (String × String)
  | add name => Entries.put name "" es
  | insert name value | set name value => Entries.put name value es
  | rename old new => Entries.rename old new es
  | remove name => Entries.erase name es
  | clear => []

/-- The operation has to do with a name. -/
def Operation.Names (name : String) : Operation → Prop
  | add k | insert k _ | set k _ | remove k => k = name
  | rename old new => old = name ∨ new = name
  | clear => True

variable {s : VariableStore} {op : Operation} {name : String} {i : Nat} {e : String × String}

/-- The first entry of a name is all that an operation needs to change. -/
lemma Operation.Allowed.change_eq_changeFirst {es : List (String × String)}
    (hop : op.Allowed es) (hes : (Entries.names es).Nodup) : op.change es = op.changeFirst es := by
  cases op with
  | add name => exact (Entries.put_of_notMem hop.2.2 "").symm
  | insert name value =>
    rw [Operation.change, Operation.changeFirst]
    split
    · rename_i hmem
      exact (Entries.put_eq_map hes hmem value).symm
    · rename_i hmem
      exact (Entries.put_of_notMem hmem value).symm
  | set name value => exact (Entries.put_eq_map hes hop value).symm
  | rename old new => exact (Entries.rename_eq_map hes old new).symm
  | remove name => exact (Entries.erase_eq_filter hes name).symm
  | clear => rfl

/-! ### Operations in place -/

lemma run_find {α : Type} (f : Option Nat → StateM VariableStore α) :
    (find name >>= f).run s = (f (s.entries.findIdx? fun e => e.1 = name)).run s := rfl

lemma run_get {α : Type} (f : VariableStore → StateM VariableStore α) :
    (get >>= f).run s = (f s).run s := rfl

lemma isSome_findIdx?_iff :
    (s.entries.findIdx? fun e => e.1 = name).isSome = true ↔ name ∈ s.names := by
  simp [VariableStore.names, Entries.names]

/-- The first entry of a name is the only one. -/
lemma run_change_of_mem (hs : s.names.Nodup) (h : name ∈ s.names)
    (f : String × String → String × String) (otherwise : StateM VariableStore Answer) :
    (change name f otherwise).run s
      = (.done, ⟨s.entries.map fun e => if e.1 = name then f e else e⟩) := by
  obtain ⟨i, e, he, rfl⟩ := Keyed.exists_place h
  simp only [change, run_find, Keyed.findIdx?_place hs he, ← Keyed.modify_eq_map hs he]
  rfl

lemma run_change_of_notMem (h : name ∉ s.names) (f : String × String → String × String)
    (otherwise : StateM VariableStore Answer) :
    (change name f otherwise).run s = otherwise.run s := by
  simp only [change, run_find, Keyed.findIdx?_of_notMem h]

lemma run_takeOut_place (he : s.entries[i]? = some e) :
    (takeOut i).run s = (.removed e.2, ⟨s.entries.eraseIdx i⟩) := by
  simp only [takeOut, run_get, he]
  rfl

/-- An operation that is allowed is carried out by the rules, in place and as a whole. -/
lemma Operation.Allowed.run_carryOut (hop : op.Allowed s.entries) (hs : s.names.Nodup) :
    ∃ a, a ≠ .refused ∧ op.carryOut.run s = (a, ⟨op.change s.entries⟩)
      ∧ op.perform? s = some (a, ⟨op.change s.entries⟩) := by
  have hfirst := hop.change_eq_changeFirst hs
  cases op with
  | add name =>
    have hadmits : s.admits name = true := admits_iff.mpr hop
    refine ⟨.done, by simp, ?_, by simp [perform?, add?, hadmits, Operation.change]⟩
    simp only [carryOut, run_find, isSome_findIdx?_iff, ← admits_eq_false_iff, hadmits,
      Bool.true_eq_false, if_false]
    rfl
  | insert name value =>
    refine ⟨.done, by simp, ?_, by rw [hfirst]; rfl⟩
    rw [carryOut, Operation.change]
    split
    · rename_i hmem
      exact run_change_of_mem hs hmem _ _
    · rename_i hmem
      exact run_change_of_notMem hmem _ _
  | set name value =>
    refine ⟨.done, by simp, run_change_of_mem hs hop _ _, ?_⟩
    rw [perform?, set?, if_pos (contains_iff.mpr hop), hfirst]
    rfl
  | rename old new =>
    obtain ⟨hold, hnew⟩ := hop
    have hadmits : s.admits new = true := admits_iff.mpr hnew
    have hcontains : s.contains old = true := contains_iff.mpr hold
    refine ⟨.done, by simp, ?_, ?_⟩
    · simp only [carryOut, run_find, isSome_findIdx?_iff, ← admits_eq_false_iff, hadmits,
        Bool.true_eq_false, if_false]
      exact run_change_of_mem hs hold _ _
    · rw [perform?, rename?, hadmits, hcontains, hfirst]
      rfl
  | remove name =>
    obtain ⟨i, e, he, rfl⟩ := Keyed.exists_place hop
    refine ⟨.removed e.2, by simp, ?_, ?_⟩
    · simp only [carryOut, run_find, Keyed.findIdx?_place hs he, Operation.change,
        ← Keyed.eraseIdx_eq_filter hs he]
      exact run_takeOut_place he
    · have hget : s.get? e.1 = some e.2 := Entries.get?_of_mem hs (List.mem_of_getElem? he)
      rw [perform?, remove?, hget, hfirst]
      rfl
  | clear => exact ⟨.done, by simp, rfl, rfl⟩

/-- An operation that is not allowed is refused, in place and as a whole. -/
lemma Operation.refused_of_not_allowed (hop : ¬ op.Allowed s.entries) :
    op.carryOut.run s = (.refused, s) ∧ op.perform? s = none := by
  cases op with
  | add name =>
    have hadmits : s.admits name = false :=
      Bool.eq_false_iff.mpr fun h => hop (admits_iff.mp h)
    refine ⟨?_, by simp [perform?, add?, hadmits]⟩
    simp only [carryOut, run_find, isSome_findIdx?_iff, ← admits_eq_false_iff, hadmits, if_true]
    rfl
  | insert name value => exact absurd trivial hop
  | set name value =>
    have hcontains : s.contains name = false :=
      Bool.eq_false_iff.mpr fun h => hop (contains_iff.mp h)
    exact ⟨run_change_of_notMem hop _ _, by simp [perform?, set?, hcontains]⟩
  | rename old new =>
    cases hadmits : s.admits new with
    | false =>
      refine ⟨?_, by simp [perform?, rename?, hadmits]⟩
      simp only [carryOut, run_find, isSome_findIdx?_iff, ← admits_eq_false_iff, hadmits, if_true]
      rfl
    | true =>
      have hold : old ∉ s.names := fun hold => hop ⟨hold, admits_iff.mp hadmits⟩
      refine ⟨?_, by simp [perform?, rename?, hold]⟩
      simp only [carryOut, run_find, isSome_findIdx?_iff, ← admits_eq_false_iff, hadmits,
        Bool.true_eq_false, if_false]
      exact run_change_of_notMem hold _ _
  | remove name =>
    have hname : name ∉ s.names := hop
    have hget : s.get? name = none := Entries.get?_eq_none_iff.mpr hname
    refine ⟨?_, by rw [perform?, remove?, hget]; rfl⟩
    simp only [carryOut, run_find, Keyed.findIdx?_of_notMem hname]
    rfl
  | clear => exact absurd trivial hop

/-- The entries after an operation, in place, are those that the rule gives. -/
lemma entries_run_carryOut (hs : s.names.Nodup) (op : Operation) :
    (op.carryOut.run s).2.entries = op.rule s.entries := by
  rw [Operation.rule]
  split
  · rename_i hop
    obtain ⟨a, -, hrun, -⟩ := hop.run_carryOut hs
    rw [hrun]
  · rename_i hop
    rw [(Operation.refused_of_not_allowed hop).1]

/-! ### What stays -/

variable {es : List (String × String)}

lemma nodup_rule (hes : (Entries.names es).Nodup) (op : Operation) :
    (Entries.names (op.rule es)).Nodup := by
  rw [Operation.rule]
  split
  · rename_i hop
    rw [hop.change_eq_changeFirst hes]
    cases op with
    | add name | insert name value | set name value => exact Entries.nodup_put hes _ _
    | rename old new => exact Entries.nodup_rename hes hop.2.2.2
    | remove name => exact Entries.names_erase name es ▸ hes.erase name
    | clear => exact List.nodup_nil
  · exact hes

/-- An operation does not touch the values of names that it has nothing to do with. -/
lemma get?_rule (hes : (Entries.names es).Nodup) (hname : ¬ op.Names name) :
    Entries.get? name (op.rule es) = Entries.get? name es := by
  rw [Operation.rule]
  split
  · rename_i hop
    rw [hop.change_eq_changeFirst hes]
    cases op with
    | add k | insert k value | set k value =>
      exact (Entries.get?_put _ _ _ _).trans (if_neg hname)
    | rename old new =>
      obtain ⟨hold, hnew⟩ := not_or.mp hname
      exact Entries.get?_rename hold hnew
    | remove k => exact Entries.get?_erase hname
    | clear => exact absurd trivial hname
  · rfl

/-- Only an insertion brings a name that is reserved. -/
lemma Canonical.run_carryOut (hs : s.Canonical)
    (hop : ∀ name value, op = .insert name value → name ∈ s.names ∨ isReserved name = false) :
    (op.carryOut.run s).2.Canonical := by
  by_cases hallowed : op.Allowed s.entries
  · obtain ⟨a, -, hrun, -⟩ := hallowed.run_carryOut hs.nodup
    rw [hrun, hallowed.change_eq_changeFirst hs.nodup]
    cases op with
    | add name => exact hs.insert hallowed.2.1 ""
    | insert name value =>
      exact hs.insert ((hop name value rfl).elim (hs.unreserved name) id) value
    | set name value => exact hs.insert (hs.unreserved name hallowed) value
    | rename old new => exact hs.rename (admits_iff.mpr hallowed.2) old
    | remove name => exact hs.erase name
    | clear => exact canonical_empty
  · rw [(Operation.refused_of_not_allowed hallowed).1]
    exact hs

/-! ### Runs -/

lemma nodup_run_carryOut (hs : s.names.Nodup) (op : Operation) :
    (op.carryOut.run s).2.names.Nodup := by
  rw [names, entries_run_carryOut hs]
  exact nodup_rule hs op

lemma nodup_after (hs : s.names.Nodup) (ops : List Operation) : (s.after ops).names.Nodup := by
  induction ops generalizing s with
  | nil => exact hs
  | cons op ops ih => exact ih (nodup_run_carryOut hs op)

/-- A run of operations follows the rules. -/
lemma entries_after (hs : s.names.Nodup) (ops : List Operation) :
    (s.after ops).entries = ops.foldl Operation.rule s.entries := by
  induction ops generalizing s with
  | nil => rfl
  | cons op ops ih =>
    rw [List.foldl_cons, ← entries_run_carryOut hs op]
    exact ih (nodup_run_carryOut hs op)

/-- Every insertion of a run is of a name that is there or not reserved. -/
def Careful (s : VariableStore) (ops : List Operation) : Prop :=
  ∀ before name value later, ops = before ++ .insert name value :: later →
    name ∈ (s.after before).names ∨ isReserved name = false

lemma Canonical.after {ops : List Operation} (hs : s.Canonical) (hops : s.Careful ops) :
    (s.after ops).Canonical := by
  induction ops generalizing s with
  | nil => exact hs
  | cons op ops ih =>
    have hfirst : ∀ name value, op = .insert name value →
        name ∈ s.names ∨ isReserved name = false := by
      rintro name value rfl
      exact hops [] name value ops rfl
    refine ih (hs.run_carryOut hfirst) fun before name value later hsplit => ?_
    exact hops (op :: before) name value later (hsplit ▸ rfl)

/-- Whatever operations are tried on an empty store, no name repeats, and the entries are those that
the rules of a map in order of insertion give. An operation is carried out if and only if it is
allowed, in place as well as as a whole; one that is refused leaves the store as it was, and none
touches the value of another name. A run in which every insertion is of a name that is there or not
reserved brings no reserved name. -/
theorem entries_after_empty (ops : List Operation) :
    let s := ({} : VariableStore).after ops
    s.names.Nodup ∧ s.entries = ops.foldl Operation.rule [] ∧
    (∀ op : Operation,
      op.carryOut.run s = (op.perform? s).getD (.refused, s) ∧
      ((op.carryOut.run s).1 ≠ .refused ↔ op.Allowed s.entries) ∧
      (¬ op.Allowed s.entries → op.carryOut.run s = (.refused, s)) ∧
      ∀ name, ¬ op.Names name → (op.carryOut.run s).2.get? name = s.get? name) ∧
    (({} : VariableStore).Careful ops → ∀ name ∈ s.names, isReserved name = false) := by
  intro s
  have hs : s.names.Nodup := nodup_after canonical_empty.nodup ops
  refine ⟨hs, entries_after canonical_empty.nodup ops, fun op => ?_,
    fun hops => (canonical_empty.after hops).unreserved⟩
  have hget : ∀ name, ¬ op.Names name → (op.carryOut.run s).2.get? name = s.get? name := by
    intro name hname
    rw [get?, entries_run_carryOut hs]
    exact get?_rule hs hname
  by_cases hop : op.Allowed s.entries
  · obtain ⟨a, ha, hrun, hperform⟩ := hop.run_carryOut hs
    refine ⟨by rw [hrun, hperform]; rfl, ?_, fun hnot => absurd hop hnot, hget⟩
    rw [hrun]
    exact iff_of_true ha hop
  · obtain ⟨hrun, hperform⟩ := Operation.refused_of_not_allowed hop
    refine ⟨by rw [hrun, hperform]; rfl, ?_, fun _ => hrun, hget⟩
    rw [hrun]
    exact iff_of_false (fun h => h rfl) hop

/-- A name is given away and taken again, a value is put where one was, and a reserved name is
refused, so the reserved names stay free. -/
theorem entries_after_empty_three :
    let ops : List Operation :=
      [.add "key", .insert "lamp" "off", .rename "key" "rope", .add "fonts", .insert "key" "brass",
        .rename "lamp" "fonts", .set "lamp" "on", .remove "rope"]
    let s := ({} : VariableStore).after ops
    ({} : VariableStore).Careful ops ∧ s.entries = [("lamp", "on"), ("key", "brass")] ∧
      (∀ name ∈ s.names, isReserved name = false) ∧
      (Operation.add "lamp").carryOut.run s = (.refused, s) ∧
      ((Operation.remove "lamp").carryOut.run s).2.get? "key" = s.get? "key" := by
  intro ops s
  obtain ⟨-, hentries, hstep, hfree⟩ := entries_after_empty ops
  have hcareful : ({} : VariableStore).Careful ops := by
    intro before name value later hsplit
    have hmem : Operation.insert name value ∈ ops := hsplit ▸ by simp
    have hname : name = "lamp" ∨ name = "key" := by
      simp only [ops, List.mem_cons, Operation.insert.injEq, reduceCtorEq, List.not_mem_nil] at hmem
      tauto
    rcases hname with rfl | rfl <;> exact .inr (by decide)
  have hresult : s.entries = [("lamp", "on"), ("key", "brass")] := hentries.trans (by decide)
  refine ⟨hcareful, hresult, hfree hcareful, ?_, ?_⟩
  · exact (hstep (.add "lamp")).2.2.1 (by rw [hresult]; decide)
  · exact (hstep (.remove "lamp")).2.2.2 "key" fun h : "lamp" = "key" => absurd h (by decide)

end Storyboard.VariableStore
