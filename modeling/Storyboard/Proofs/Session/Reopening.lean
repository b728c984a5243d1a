import Storyboard.Proofs.Document.Canonical
import Storyboard.Proofs.Session.Edit
import Storyboard.Proofs.Session.Savable

/-!
# Opening what was saved

What a session saves can be opened, and the scenes come back one by one with their elements, where
elements without a tag are left out. What is true of an element and of what its entry gives again
is true of all pairs, so the properties of elements need no more talk of texts.
-/

namespace Storyboard

open Json

lemma Element.Incoming.regular {canvas : Canvas} {e : Element} (h : e.Incoming canvas) :
    e.kind.Regular := by
  cases h with
  | menu fonts n =>
    rw [fit_kind, create_kind]
    rfl
  | entry hr hk c fonts n =>
    rw [fit_kind]
    exact (ElementEntry.canonical_toElement hk).tagged.regular

/-- A new element has the kind that its tag names. -/
def Action.Regular : Action → Prop
  | .addElement kind _ => kind.Regular
  | _ => True

namespace Session

variable {s s' : Session} {n m : Nat} {a : Action} {o : Outcome} {e : Element} {canvas : Canvas}
  {admits : Action → Prop}

/-! ### Histories -/

lemma Origin.regular (ha : a.Regular) (hs : ∀ d, s.Holds d → d.kind.Regular)
    (h : s.Origin a canvas e) : e.kind.Regular := by
  cases h with
  | held h => exact hs e h
  | incoming h => exact h.regular
  | created n kind p =>
    rw [newElement, Element.fit_kind, Element.create_kind]
    exact ha
  | @copied a d h n => exact hs d h
  | edited h id edit => exact (hs _ h).of_bare (Edit.apply_bare _ _ edit)
  | dragged h g p => exact (hs _ h).of_bare (Edit.apply_bare _ _ (g.edit p))
  | fitted h canvas =>
    rw [Element.fit_kind]
    exact hs _ h

/-- The tags of all elements of a session name their kinds, if those of new ones do. -/
lemma Reachable.regular (h : Reachable Action.Regular s n) : ∀ e, s.Holds e → e.kind.Regular :=
  h.forall_holds (P := fun _ e => e.kind.Regular) (fun he => he.regular)
    (fun _ ha hd he => he.regular ha hd) rfl

/-! ### Saving and opening -/

lemma perform_exportText (hs : s.Consistent) (n : Nat) :
    s.perform n .exportText = (.ok (.text s.whole.toText, s.snapshot), n) := by
  simp [Session.perform, exportText, snapshot_eq hs, telling, Except.map]

/-- Every session can open what was saved. The scenes come back with their elements that have tags
one by one, each such as its entry gives it on the canvas there. -/
theorem exists_reopened {R : Element → Element → Prop} (hs : Reachable Action.Regular s n)
    (hr : s.whole.InRange) (hf : s.fonts.Bounded) (t : Session)
    (hR : ∀ e, s.Holds e → e.kind.Tagged → e.InRange → ∀ i, R e ((e.toEntry.reread.toElement
      t.canvas s.fonts.reread i).fit t.canvas s.fonts.reread)) (k : Nat) :
    ∃ t' k', t.perform k (.importText s.whole.toText) = (.ok (.nothing, t'), k') ∧
      t'.fonts = s.fonts.reread ∧ s.whole.scenes.typed.Alike R t'.project.scenes := by
  have helements : s.whole.scenes.Forall fun e => e.Legible ∧ (e.kind.tag ≠ "" → ∀ i, R e
      ((e.toEntry.reread.toElement t.canvas s.fonts.reread i).fit t.canvas s.fonts.reread)) := by
    intro scene hscene e he
    have hheld := holds_of_whole hscene he
    have hrange := hr scene hscene e he
    exact ⟨hrange.legible, fun htag => hR e hheld ((hs.regular e hheld).tagged htag) hrange⟩
  obtain ⟨q, k', hq, hm, -, halike⟩ := Project.exists_ofText_toText
    (R := fun e e' => R e (e'.fit t.canvas s.fonts.reread)) t.canvas k
    (whole_valid hs.consistent) hs.tidy.vars hs.tidy.metadata hf helements "" trivial
    (by simp [tokens])
  rw [String.append_empty] at hq
  have hfonts : q.metadata.fontSizes = s.fonts.reread := congrArg Metadata.fontSizes hm
  refine ⟨t.replaceProject q, k', ?_, hfonts, ?_⟩
  · have himport := importText_eq_ok.mpr ⟨q, hq, rfl⟩
    simp [Session.perform, himport, quiet, Except.map]
  · have hfit : (t.replaceProject q).project.scenes
        = q.scenes.mapElements (·.fit t.canvas s.fonts.reread) := by
      rw [← hfonts]
      rfl
    rw [hfit]
    exact halike.mapElements fun e e' h => h

end Session

end Storyboard
