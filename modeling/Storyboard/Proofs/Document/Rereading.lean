import Storyboard.Proofs.Document.ElementEntry
import Storyboard.Proofs.Json.Number

/-!
# Element entries and their texts

An entry is read back from its text, in either layout, as it was written; only the fields of old
documents are gone. What is missing, what is null or empty, and what is a number or a text stay
apart. So a text that is read and written comes to rest after the first time.
-/

namespace Storyboard

open Json

namespace ElementEntry

/-- The text of an entry in a layout. -/
def toText (l : Layout) (e : ElementEntry) : String :=
  .ofList (e.toValue.chars l 0)

/-- The entry without the fields of old documents. -/
def renewed (e : ElementEntry) : ElementEntry :=
  { e with triggerTarget := none, triggerValue := none }

/-- The opacity of the entry is missing or a finite number. -/
def FiniteOpacity (e : ElementEntry) : Prop :=
  ∀ x, e.opacity = some x → x.isFinite = true

variable {e : ElementEntry}

lemma InRange.legible (h : e.InRange) (hopacity : e.FiniteOpacity) : e.Legible where
  x := h.x.fits64
  y := h.y.fits64
  width n hn := (h.width n hn).fits64
  height n hn := (h.height n hn).fits64
  opacity x hx := readsBack_float (hopacity x hx)

/-- A side in range is read back as it is. -/
lemma map_reread {d : Option Dimension} (h : ∀ n, d = some (.px n) → Storyboard.InRange n) :
    d.map Dimension.reread = d := by
  rcases d with _ | n | _
  · rfl
  · exact congrArg (some <| Dimension.px ·) (h n rfl).coordinate_ofInt
  · rfl

lemma InRange.reread_eq (h : e.InRange) (hopacity : e.FiniteOpacity) : e.reread = e.renewed := by
  have hfinite : e.opacity.filter (·.isFinite) = e.opacity := by
    cases hx : e.opacity with
    | none => rfl
    | some x => rw [Option.filter_some, if_pos (hopacity x hx)]
  rw [reread, h.x.coordinate_ofInt, h.y.coordinate_ofInt, map_reread h.width, map_reread h.height,
    hfinite, renewed]

/-- The fields of old documents are not written. -/
@[simp] lemma toText_renewed (l : Layout) (e : ElementEntry) : e.renewed.toText l = e.toText l := by
  have hwritten : e.renewed.written = e.written := by
    funext f
    cases f <;> rfl
  rw [toText, toText, toValue, toValue, members, members, table, table, hwritten]

/-- An entry is read from its text, without the fields of old documents. -/
lemma read_toText (h : e.InRange) (hopacity : e.FiniteOpacity) (l : Layout) :
    reader.read (e.toText l) = .ok e.renewed := by
  have hend : tokens [] = [] := by rw [tokens]
  have hdraft : Draft.ofText (.ofList (e.toValue.chars l 0 ++ [])) = (.ofValue e.toValue, false) :=
    Draft.ofText_chars l (h.legible hopacity).readable trivial hend
  rw [List.append_nil] at hdraft
  have hread : reader nesting (.ofValue e.toValue) = .ok e.renewed :=
    (e.reader_toValue 126).trans (congrArg _ (h.reread_eq hopacity))
  rw [Reader.read, toText, hdraft]
  simp [hread, bind, Except.bind, pure, Except.pure]

/-- Every entry whose opacity is missing or finite is read from its text in either layout, without
the fields of old documents. Entries of one text differ in these fields only. An entry that was read
from any text is read again from its own one, which from then on stays as it is. -/
theorem read_toText_renewed :
    (∀ e : ElementEntry, e.InRange → e.FiniteOpacity →
      ∀ l, reader.read (e.toText l) = .ok e.renewed) ∧
    (∀ e e' : ElementEntry, e.InRange → e'.InRange → e.FiniteOpacity → e'.FiniteOpacity →
      ∀ l l', e.toText l = e'.toText l' → e.renewed = e'.renewed) ∧
    ∀ text e, reader.read text = .ok e → e.FiniteOpacity →
      ∀ l, reader.read (e.toText l) = .ok e.renewed ∧
        ∀ l', (reader.read (e.toText l)).map (·.toText l') = .ok (e.toText l') := by
  refine ⟨fun e h hopacity => read_toText h hopacity, ?_, ?_⟩
  · intro e e' h h' hopacity hopacity' l l' htext
    have hread := read_toText h hopacity l
    rw [htext, read_toText h' hopacity' l'] at hread
    exact (Except.ok.inj hread).symm
  · intro text e hread hopacity l
    have hagain := read_toText (yields_reader.read hread) hopacity l
    refine ⟨hagain, fun l' => ?_⟩
    rw [hagain, Except.map, toText_renewed]

/-- A width that is left to the content, a missing height, an empty text, a missing color and a
third for an opacity, with the target of an old document beside them; and the same as it is read
from a list of fields. -/
theorem read_toText_renewed_third :
    let e : ElementEntry :=
      { kind := "timer", x := -7, y := 2147483647, width := some .auto, text := some ""
        opacity := some (.nearest .double false ⟨1, 3⟩), triggerTarget := some "Attic" }
    let text := "[\"timer\", \"-7\", 2147483647.4, \"auto\", \"40px\", null, \"\", 5]"
    let listed : ElementEntry :=
      { kind := "timer", x := -7, y := 2147483647, width := some .auto, height := some (.px 40)
        background := some "", font := some "5" }
    e.InRange ∧ e.FiniteOpacity ∧
      reader.read (e.toText .compact) = .ok { e with triggerTarget := none } ∧
      e.toText .pretty ≠ listed.toText .pretty ∧
      reader.read text = .ok listed ∧ reader.read (listed.toText .pretty) = .ok listed := by
  intro e text listed
  have he : e.InRange := by
    refine ⟨by decide, by decide, ?_, ?_⟩
    · rintro n ⟨⟩
    · rintro n ⟨⟩
  have hopacity : e.FiniteOpacity := by
    intro x hx
    obtain rfl := Option.some.inj hx
    decide +kernel
  have hread : reader.read text = .ok listed := by decide +kernel
  have hlisted : listed.InRange := yields_reader.read hread
  have hlisted' : listed.FiniteOpacity := by rintro x ⟨⟩
  obtain ⟨hreturn, hinjective, hreread⟩ := read_toText_renewed
  refine ⟨he, hopacity, hreturn e he hopacity .compact, fun htext => ?_, hread,
    (hreread text listed hread hlisted' .pretty).1⟩
  have hsame := hinjective e listed he hlisted hopacity hlisted' _ _ htext
  have hheight : (none : Option Dimension) = some (.px 40) := congrArg height hsame
  cases hheight

end ElementEntry

end Storyboard
