import Mathlib.Tactic.Common
import Storyboard.Element.Kind

/-!
# Kinds that documents name

The tag of a kind that a tag names is a tag of it, so a document that is read and written again
names the same kinds.
-/

namespace Storyboard.Kind

/-- The kind without the data that only it has. -/
def bare : Kind → Kind
  | .image _ => .image none
  | .video _ => .video none
  | .collapsedList _ _ => .collapsedList "" ""
  | k => k

/-- A tag that is not empty names the kind, whatever data it has. -/
def Tagged (k : Kind) : Prop :=
  ∃ tag, tag ≠ "" ∧ ofTag tag = k.bare

/-- The kind is the one that its tag names, whatever data it has. -/
def Regular (k : Kind) : Prop :=
  ofTag k.tag = k.bare

/-- The kind where an empty source of a picture is none. -/
def settled : Kind → Kind
  | .image source => .image (source.filter (· ≠ ""))
  | k => k

variable {k : Kind}

@[simp] lemma tag_bare (k : Kind) : k.bare.tag = k.tag := by
  cases k <;> rfl

@[simp] lemma isMenu_bare (k : Kind) : k.bare.isMenu = k.isMenu := by
  cases k <;> rfl

@[simp] lemma tag_settled (k : Kind) : k.settled.tag = k.tag := by
  cases k <;> rfl

@[simp] lemma hasText_settled (k : Kind) : k.settled.hasText = k.hasText := by
  cases k <;> rfl

@[simp] lemma isMenu_settled (k : Kind) : k.settled.isMenu = k.isMenu := by
  cases k <;> rfl

@[simp] lemma hasBackground_settled (k : Kind) : k.settled.hasBackground = k.hasBackground := by
  cases k <;> rfl

@[simp] lemma settled_settled (k : Kind) : k.settled.settled = k.settled := by
  cases k <;> simp [settled]

lemma settled_of_ne (h : k ≠ .image (some "")) : k.settled = k := by
  cases k with
  | image source =>
    cases source with
    | none => rfl
    | some s =>
      have hs : s ≠ "" := fun hs => h (by rw [hs])
      simp [settled, Option.filter, hs]
  | _ => rfl

lemma settled_ne (k : Kind) : k.settled ≠ .image (some "") := by
  cases k with
  | image source =>
    intro h
    have hs := (Option.filter_eq_some_iff.mp (Kind.image.inj h)).2
    exact absurd hs (by decide)
  | _ => exact Kind.noConfusion

lemma isMenu_iff : k.isMenu = true ↔ k = .menu := by
  cases k <;> simp [isMenu]

lemma hasBackground_iff : k.hasBackground = true ↔ k = .button := by
  cases k <;> simp [hasBackground]

lemma ofTag_tag_ofTag (tag : String) : ofTag (ofTag tag).tag = ofTag tag := by
  generalize h : ofTag tag = k
  unfold ofTag at h
  split_ifs at h <;> subst h <;> first | rfl | simp [ofTag, Kind.tag, *]

lemma tag_ofTag_ne {tag : String} (h : tag ≠ "") : (ofTag tag).tag ≠ "" := by
  unfold ofTag
  split_ifs <;> simp [Kind.tag, h]

lemma bare_ofTag (tag : String) : (ofTag tag).bare = ofTag tag := by
  unfold ofTag
  split_ifs <;> rfl

lemma tagged_ofTag {tag : String} (h : tag ≠ "") : (ofTag tag).Tagged :=
  ⟨tag, h, (bare_ofTag tag).symm⟩

/-- Other data keep a kind tagged. -/
lemma Tagged.of_bare {k' : Kind} (h : k.Tagged) (hb : k'.bare = k.bare) : k'.Tagged := by
  obtain ⟨tag, hne, ht⟩ := h
  exact ⟨tag, hne, ht.trans hb.symm⟩

lemma regular_ofTag (tag : String) : (ofTag tag).Regular := by
  rw [Regular, ofTag_tag_ofTag, bare_ofTag]

lemma Regular.of_bare {k' : Kind} (h : k.Regular) (hb : k'.bare = k.bare) : k'.Regular := by
  rw [Regular, ← tag_bare, hb, tag_bare, h]

lemma Regular.tagged (h : k.Regular) (hne : k.tag ≠ "") : k.Tagged :=
  ⟨k.tag, hne, h⟩

lemma Tagged.regular (h : k.Tagged) : k.Regular := by
  obtain ⟨tag, -, ht⟩ := h
  rw [Regular, ← tag_bare, ← ht, ofTag_tag_ofTag]

lemma Tagged.tag_ne (h : k.Tagged) : k.tag ≠ "" := by
  obtain ⟨tag, hne, ht⟩ := h
  rw [← tag_bare, ← ht]
  exact tag_ofTag_ne hne

end Storyboard.Kind
