import Storyboard.Document.ElementEntry
import Storyboard.Proofs.Json.Read
import Storyboard.Proofs.Number.Whole

/-!
# Reading written element entries

Whatever an entry says is read back from what it writes, except for the fields of old documents,
which are not written, and up to the interval of coordinates.
-/

namespace Storyboard

open Json Document

/-! ### Coordinates -/

/-- A coordinate or a side that a document can hold. -/
def InRange (i : Int) : Prop :=
  minCoordinate ≤ i ∧ i ≤ maxCoordinate

instance (i : Int) : Decidable (InRange i) :=
  inferInstanceAs (Decidable (_ ∧ _))

lemma InRange.fits64 {i : Int} (h : InRange i) : fits64 i = true := by
  simp only [InRange, minCoordinate, maxCoordinate] at h
  simp only [Json.fits64, Bool.and_eq_true, decide_eq_true_eq]
  omega

lemma inRange_coordinate (x : Double) : InRange (coordinate x) := by
  simp only [InRange, coordinate, Binary.roundWithin, Binary.clip, minCoordinate, maxCoordinate]
  omega

/-- A number in range is read back from its binary number. -/
lemma InRange.coordinate_ofInt {i : Int} (h : InRange i) : coordinate (.ofInt .double i) = i := by
  simp only [InRange, minCoordinate, maxCoordinate] at h
  rw [coordinate, Binary.roundWithin_ofInt (by omega)]
  simp only [Binary.clip, minCoordinate, maxCoordinate]
  omega

/-- The dimension that is read back from a written one. -/
def Dimension.reread : Dimension → Dimension
  | .px n => .px (coordinate (.ofInt .double n))
  | .auto => .auto

@[simp] lemma dimension?_dimensionValue (d : Dimension) :
    dimension? (dimensionValue d) = some d.reread := by
  cases d <;> rfl

namespace ElementEntry

variable (e : ElementEntry)

/-- The entry that is read back from a written one. -/
def reread : ElementEntry :=
  { e with
    x := coordinate (.ofInt .double e.x)
    y := coordinate (.ofInt .double e.y)
    width := e.width.map Dimension.reread
    height := e.height.map Dimension.reread
    opacity := e.opacity.filter (·.isFinite)
    triggerTarget := none
    triggerValue := none }

/-! ### The table of an entry -/

lemma find?_name (f : ElementField) : fields.find? (fields.name f) = some f := by
  cases f <;> rfl

lemma all_nodup : ElementField.all.Nodup := by decide

lemma mem_all (f : ElementField) : f ∈ ElementField.all := by
  cases f <;> decide

lemma mem_table {m : ElementField × Value} : m ∈ e.table ↔ e.written m.1 = some m.2 := by
  simp only [table, List.mem_filterMap, Option.map_eq_some_iff]
  constructor
  · rintro ⟨f, -, v, hv, rfl⟩
    exact hv
  · intro h
    exact ⟨m.1, mem_all m.1, m.2, h, rfl⟩

lemma map_fst_table :
    e.table.map (·.1) = ElementField.all.filter fun f => (e.written f).isSome := by
  unfold table
  induction ElementField.all with
  | nil => rfl
  | cons f fs ih => cases h : e.written f <;> simp [h, ih]

lemma keys_table : (e.table.map (·.1)).Nodup := by
  rw [map_fst_table]
  exact all_nodup.filter _

lemma lookup_filterMap {κ β : Type} [DecidableEq κ] (w : κ → Option β) (k : κ) (ks : List κ) :
    (ks.filterMap fun f => (w f).map fun v => (f, v)).lookup k
      = if k ∈ ks then w k else none := by
  induction ks with
  | nil => rfl
  | cons f fs ih =>
    cases hw : w f <;> by_cases hk : k = f
    · subst hk
      simp [hw, ih]
    · simp [hw, ih, hk]
    · subst hk
      simp [hw]
    · simp [hw, ih, hk, List.lookup_cons, beq_false_of_ne hk]

lemma lookup_table (f : ElementField) : e.table.lookup f = e.written f := by
  rw [table, lookup_filterMap, if_pos (mem_all f)]

/-! ### Reading -/

lemma fits_written {f : ElementField} {v : Value} (h : e.written f = some v) (room : Nat) :
    v.Fits room := by
  cases f <;> simp only [written, Option.map_eq_some_iff, Option.some.injEq, reduceCtorEq] at h
  case kind | x | y =>
    subst h
    trivial
  case width | height =>
    obtain ⟨_ | _, -, rfl⟩ := h <;> trivial
  case opacity =>
    obtain ⟨x, -, rfl⟩ := h
    split <;> trivial
  all_goals
    obtain ⟨s, -, rfl⟩ := h
    trivial

lemma dimension?_written {f : ElementField} {v : Value} (h : e.written f = some v)
    (hf : f.isDimension = true) : (dimension? v).isSome = true := by
  cases f <;> simp [ElementField.isDimension] at hf
  all_goals
    simp only [written, Option.map_eq_some_iff] at h
    obtain ⟨d, -, rfl⟩ := h
    simp

lemma read_written {f : ElementField} {v : Value} (h : e.written f = some v) (room : Nat) :
    fields.read f room (.ofValue v) = .ok v := by
  have hv : Reader.value room (.ofValue v) = .ok v :=
    Draft.value_ofValue room v (e.fits_written h room)
  by_cases hf : f.isDimension = true
  · have hd : (dimension? v).isNone = false := by
      rw [← Option.not_isSome, e.dimension?_written h hf]
      rfl
    simp [fields, ElementField.read, hv, hd, bind, Except.bind, pure, Except.pure]
  · simp [fields, ElementField.read, hv, hf, bind, Except.bind, pure, Except.pure]

lemma ofTable_table : ofTable e.table = e.reread := by
  have htext (s : Option String) : (s.map Value.string).bind Value.scalarText? = s := by
    cases s <;> rfl
  have hdim (d : Option Dimension) :
      (d.map dimensionValue).bind dimension? = d.map Dimension.reread := by
    cases d <;> simp
  have hopacity (x : Option Double) :
      (x.map fun x => if x.isFinite then Value.number (.float x) else .null).bind float?
        = x.filter (·.isFinite) := by
    cases x with
    | none => rfl
    | some x => by_cases h : x.isFinite <;> simp [h, float?, Option.filter]
  simp only [ofTable, lookup_table, written, htext, hdim, hopacity]
  rfl

/-- An entry is read back from what it writes. -/
theorem reader_toValue (room : Nat) :
    reader (room + 1) (.ofValue e.toValue) = .ok e.reread := by
  have htable : fields.table (room + 1) (.ofValue e.toValue)
      = .ok (e.table.map fun m => (m.1, m.2)) :=
    fields.table_written find?_name (fun m hm => e.read_written (e.mem_table.mp hm) room) e.keys_table
  have hid : (e.table.map fun m => (m.1, m.2)) = e.table := by simp
  simp only [reader, htable, hid, Except.map, ofTable_table]

/-! ### Legible entries -/

/-- Every number of the entry can be read back from its text. -/
structure Legible : Prop where
  x : fits64 e.x = true
  y : fits64 e.y = true
  width : ∀ n, e.width = some (.px n) → fits64 n = true
  height : ∀ n, e.height = some (.px n) → fits64 n = true
  opacity : ∀ x, e.opacity = some x → (Number.float x).ReadsBack

variable {e}

lemma Legible.readable_written (h : e.Legible) {f : ElementField} {v : Value}
    (hv : e.written f = some v) : v.Readable := by
  cases f <;> simp only [written, Option.map_eq_some_iff, Option.some.injEq, reduceCtorEq] at hv
  case kind =>
    subst hv
    trivial
  case x =>
    subst hv
    exact readsBack_int h.x
  case y =>
    subst hv
    exact readsBack_int h.y
  case width =>
    obtain ⟨d, hd, rfl⟩ := hv
    cases d with
    | px n => exact readsBack_int (h.width n hd)
    | auto => trivial
  case height =>
    obtain ⟨d, hd, rfl⟩ := hv
    cases d with
    | px n => exact readsBack_int (h.height n hd)
    | auto => trivial
  case opacity =>
    obtain ⟨x, hx, rfl⟩ := hv
    split
    · exact h.opacity x hx
    · trivial
  all_goals
    obtain ⟨s, -, rfl⟩ := hv
    trivial

lemma Legible.readable (h : e.Legible) : e.toValue.Readable := by
  refine membersReadable_iff.mpr fun m hm => ?_
  obtain ⟨t, ht, rfl⟩ := List.mem_map.mp hm
  exact h.readable_written (e.mem_table.mp ht)

/-! ### What is read -/

/-- Every number of the entry is a coordinate or a side that a document can hold. -/
structure InRange (e : ElementEntry) : Prop where
  x : Storyboard.InRange e.x
  y : Storyboard.InRange e.y
  width : ∀ n, e.width = some (.px n) → Storyboard.InRange n
  height : ∀ n, e.height = some (.px n) → Storyboard.InRange n

lemma inRange_int (v : Value) : Storyboard.InRange (int v) := by
  unfold Document.int
  cases float? v with
  | none => decide
  | some x => exact inRange_coordinate x

lemma inRange_dimension? {v : Value} {n : Int} (h : dimension? v = some (.px n)) :
    Storyboard.InRange n := by
  unfold dimension? at h
  split at h
  · simp at h
  · rename_i s
    cases hs : Numeral.lenient s.toList <;> simp [hs] at h
    exact h ▸ inRange_coordinate _
  · rename_i m
    cases hm : float? (.number m) <;> simp [hm] at h
    exact h ▸ inRange_coordinate _
  all_goals simp at h

lemma inRange_ofTable (t : List (ElementField × Value)) : (ofTable t).InRange := by
  have hint (o : Option Value) : Storyboard.InRange ((o.map Document.int).getD 0) := by
    cases o with
    | none => decide
    | some v => exact inRange_int v
  refine ⟨hint _, hint _, fun n hn => ?_, fun n hn => ?_⟩
  · obtain ⟨v, -, hv⟩ := Option.bind_eq_some_iff.mp hn
    exact inRange_dimension? hv
  · obtain ⟨v, -, hv⟩ := Option.bind_eq_some_iff.mp hn
    exact inRange_dimension? hv

/-- The numbers of an entry that is read are in range. -/
lemma yields_reader : Reader.Yields reader InRange := by
  intro room d e he
  obtain ⟨t, -, rfl⟩ := map_eq_ok.mp he
  exact inRange_ofTable t

end ElementEntry

end Storyboard
