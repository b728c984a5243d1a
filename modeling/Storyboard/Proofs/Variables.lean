import Storyboard.Proofs.Entries
import Storyboard.Variables

/-!
# Stores that documents can hold

The names of variables differ, and none of them is taken by a setting. Every operation on a store
that checks the new name keeps it such.
-/

namespace Storyboard.VariableStore

/-- The variables that a document can give. -/
structure Canonical (s : VariableStore) : Prop where
  nodup : s.names.Nodup
  unreserved : ∀ name ∈ s.names, isReserved name = false

variable {s : VariableStore} {name : String}

lemma canonical_empty : ({} : VariableStore).Canonical :=
  ⟨List.nodup_nil, by simp [names]⟩

lemma Canonical.insert (h : s.Canonical) (hn : isReserved name = false) (value : String) :
    (s.insert name value).Canonical := by
  refine ⟨Entries.nodup_put h.nodup name value, fun k hk => ?_⟩
  have hnames : (s.insert name value).names
      = if name ∈ s.names then s.names else s.names ++ [name] :=
    Entries.names_put name value s.entries
  rw [hnames] at hk
  split at hk
  · exact h.unreserved k hk
  · rcases List.mem_append.mp hk with hk | hk
    · exact h.unreserved k hk
    · obtain rfl := List.mem_singleton.mp hk
      exact hn

@[simp] lemma contains_iff : s.contains name = true ↔ name ∈ s.names := by
  simp [contains]

@[simp] lemma contains_eq_false_iff : s.contains name = false ↔ name ∉ s.names := by
  rw [← contains_iff, Bool.not_eq_true]

lemma admits_iff : s.admits name = true ↔
    name ≠ "" ∧ isReserved name = false ∧ name ∉ s.names := by
  simp [admits, and_assoc]

lemma admits_eq_false_iff : s.admits name = false ↔
    name = "" ∨ isReserved name = true ∨ name ∈ s.names := by
  rw [← Bool.not_eq_true, admits_iff, not_and_or, not_and_or, not_not, not_not, Bool.not_eq_false]

lemma Canonical.append (h : s.Canonical) (hn : s.admits name = true) (value : String) :
    (⟨s.entries ++ [(name, value)]⟩ : VariableStore).Canonical := by
  have hinsert : s.insert name value = ⟨s.entries ++ [(name, value)]⟩ :=
    congrArg VariableStore.mk (Entries.put_of_notMem (admits_iff.mp hn).2.2 value)
  rw [← hinsert]
  exact h.insert (admits_iff.mp hn).2.1 value

lemma Canonical.rename (h : s.Canonical) {new : String} (hn : s.admits new = true) (old : String) :
    (⟨Entries.rename old new s.entries⟩ : VariableStore).Canonical := by
  obtain ⟨-, hfree, hnew⟩ := admits_iff.mp hn
  refine ⟨Entries.nodup_rename h.nodup hnew, fun k hk => ?_⟩
  rcases Entries.names_rename_subset k hk with rfl | hk
  · exact hfree
  · exact h.unreserved k hk

lemma Canonical.erase (h : s.Canonical) (name : String) :
    (⟨Entries.erase name s.entries⟩ : VariableStore).Canonical := by
  have hnames : (⟨Entries.erase name s.entries⟩ : VariableStore).names = s.names.erase name :=
    Entries.names_erase name s.entries
  refine ⟨hnames ▸ h.nodup.erase name, fun k hk => ?_⟩
  rw [hnames] at hk
  exact h.unreserved k (List.mem_of_mem_erase hk)

end Storyboard.VariableStore
