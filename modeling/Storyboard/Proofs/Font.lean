import Storyboard.Font
import Storyboard.Proofs.Json.Read

/-!
# Reading written font sizes

Whatever a document says about them, font sizes are positive and below the bound, and such sizes
are read back from the value that is written for them. A size of zero, which a document cannot say,
is read back as the usual one.
-/

namespace Storyboard.FontSizes

open Json

/-- Every size is one that a document can give. -/
def Usable (s : FontSizes) : Prop :=
  ∀ c, 0 < s.px c ∧ s.px c < bound

instance (s : FontSizes) : Decidable s.Usable :=
  decidable_of_iff (∀ c ∈ FontCategory.all, 0 < s.px c ∧ s.px c < bound)
    ⟨fun h c => h c (by cases c <;> decide), fun h c _ => h c⟩

/-- Every size is one that a document can hold. -/
def Bounded (s : FontSizes) : Prop :=
  ∀ c, s.px c < bound

instance (s : FontSizes) : Decidable s.Bounded :=
  decidable_of_iff (∀ c ∈ FontCategory.all, s.px c < bound)
    ⟨fun h c => h c (by cases c <;> decide), fun h c _ => h c⟩

lemma Usable.bounded {s : FontSizes} (h : s.Usable) : s.Bounded :=
  fun c => (h c).2

/-- The sizes that are read back from written ones. -/
def reread (s : FontSizes) : FontSizes :=
  ofPx fun c => if 0 < s.px c then s.px c else ({} : FontSizes).px c

lemma usable_default : ({} : FontSizes).Usable := by decide

@[simp] lemma px_ofPx (f : FontCategory → Nat) (c : FontCategory) : (ofPx f).px c = f c := by
  cases c <;> rfl

lemma ofPx_px (s : FontSizes) : ofPx s.px = s := rfl

lemma size?_usable {v : Value} {n : Nat} (h : size? v = some n) : 0 < n ∧ n < bound := by
  simpa using (Option.filter_eq_some_iff.mp h).2

lemma usable_ofValue (v : Value) : (ofValue v).Usable := by
  intro c
  unfold ofValue
  split
  · rename_i members
    rw [px_ofPx]
    cases h : (Entries.get? c.name members).bind size? with
    | none => exact usable_default c
    | some n =>
      obtain ⟨v, -, hv⟩ := Option.bind_eq_some_iff.mp h
      exact size?_usable hv
  · exact usable_default c

lemma get?_toValue (s : FontSizes) (c : FontCategory) :
    Entries.get? c.name (FontCategory.all.map fun c => (c.name, Value.int (s.px c)))
      = some (.int (s.px c)) := by
  cases c <;> rfl

lemma size?_int (n : Nat) : size? (.int n) = if 0 < n ∧ n < bound then some n else none := by
  by_cases h : 0 < n ∧ n < bound <;> simp [size?, Value.int, h, Option.filter]

lemma reread_eq {s : FontSizes} (h : s.Usable) : s.reread = s := by
  simp only [reread, (h _).1, if_true]
  exact ofPx_px s

/-- Sizes below the bound are read back from their value. -/
theorem ofValue_toValue {s : FontSizes} (h : s.Bounded) : ofValue s.toValue = s.reread := by
  have hsize : ∀ c, (size? (.int (s.px c))).getD (({} : FontSizes).px c)
      = if 0 < s.px c then s.px c else ({} : FontSizes).px c := by
    intro c
    rw [size?_int]
    by_cases hpos : 0 < s.px c <;> simp [hpos, h c]
  simp only [toValue, ofValue, get?_toValue, Option.bind_some, hsize, reread]

lemma readable_toValue {s : FontSizes} (h : s.Bounded) : s.toValue.Readable := by
  have hsize : ∀ c, (Value.int (s.px c)).Readable := by
    intro c
    refine readsBack_int ?_
    have hc := h c
    simp only [bound] at hc
    simp only [fits64, Bool.and_eq_true, decide_eq_true_eq]
    omega
  exact ⟨hsize _, hsize _, hsize _, hsize _, trivial⟩

lemma fits_toValue (s : FontSizes) (room : Nat) : s.toValue.Fits (room + 1) :=
  ⟨by simp [Entries.names, FontCategory.all, FontCategory.name], trivial, trivial, trivial, trivial,
    trivial⟩

end Storyboard.FontSizes
