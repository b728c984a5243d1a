import Storyboard.Document.Decoding
import Storyboard.Document.Encoding
import Storyboard.Proofs.Json.Number

/-!
# Opacity in documents

A percentage is written as a fraction in double precision. There are only 101 of them, and from each
of them the percentage comes back.
-/

namespace Storyboard

open Json

lemma opacityFraction_min (k : Nat) : opacityFraction (min k 100) = opacityFraction k := by
  simp [opacityFraction]

lemma opacityFraction_isFinite (k : Nat) : (opacityFraction k).isFinite = true := by
  have key : ∀ k < 101, (opacityFraction k).isFinite = true := by decide +kernel
  exact opacityFraction_min k ▸ key (min k 100) (by omega)

lemma opacityFraction_readsBack (k : Nat) : (Number.float (opacityFraction k)).ReadsBack :=
  readsBack_float (opacityFraction_isFinite k)

/-- A percentage comes back from the fraction that is written for it. -/
lemma percent_opacityFraction (k : Nat) :
    ElementEntry.percent (opacityFraction k) = min k 100 := by
  have key : ∀ k < 101, ElementEntry.percent (opacityFraction k) = k := by decide +kernel
  exact opacityFraction_min k ▸ key (min k 100) (by omega)

end Storyboard
