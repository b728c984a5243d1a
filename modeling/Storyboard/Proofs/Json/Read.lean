import Storyboard.Proofs.Entries
import Storyboard.Proofs.Json.Draft

/-!
# Reading written values

A value that is nested within the room and repeats no key is read back as it is, and every value
that is read is of this kind. A record is read back field by field from the table that was
written.
-/

namespace Storyboard.Json

/-! ### Steps that can fail -/

lemma bind_eq_ok {α β ε : Type} {x : Except ε α} {f : α → Except ε β} {b : β} :
    x >>= f = .ok b ↔ ∃ a, x = .ok a ∧ f a = .ok b := by
  cases x <;> simp [bind, Except.bind]

lemma pure_eq_ok {α ε : Type} {a b : α} : (pure a : Except ε α) = .ok b ↔ a = b := by
  simp [pure, Except.pure]

lemma map_eq_ok {α β ε : Type} {x : Except ε α} {f : α → β} {b : β} :
    x.map f = .ok b ↔ ∃ a, x = .ok a ∧ f a = b := by
  cases x <;> simp [Except.map]

/-! ### Repeated keys -/

lemma names_collapse_nodup (ms : List (String × Value)) : (Entries.names (collapse ms)).Nodup := by
  have key : ∀ (ms acc : List (String × Value)), (Entries.names acc).Nodup →
      (Entries.names (ms.foldl (fun ms m => Entries.put m.1 m.2 ms) acc)).Nodup := by
    intro ms
    induction ms with
    | nil => exact fun acc h => h
    | cons m ms ih =>
      intro acc h
      exact ih _ (Entries.nodup_put h m.1 m.2)
  exact key ms [] List.nodup_nil

/-- Whatever is left of repeated keys was there before. -/
lemma collapse_subset (ms : List (String × Value)) : collapse ms ⊆ ms := by
  have key : ∀ ms acc : List (String × Value),
      ms.foldl (fun ms m => Entries.put m.1 m.2 ms) acc ⊆ acc ++ ms := by
    intro ms
    induction ms with
    | nil => simp
    | cons m ms ih =>
      intro acc x hx
      rcases List.mem_append.mp (ih _ hx) with hx | hx
      · rcases Entries.mem_put hx with rfl | hx
        · simp
        · simp [hx]
      · simp [hx]
  exact key ms []

/-- Putting in entries of new names one after the other appends them. -/
lemma foldl_put (es acc : List (String × Value)) (h : (Entries.names (acc ++ es)).Nodup) :
    es.foldl (fun ms m => Entries.put m.1 m.2 ms) acc = acc ++ es := by
  induction es generalizing acc with
  | nil => simp
  | cons e es ih =>
    rw [List.foldl_cons, Entries.put_of_notMem (Entries.notMem_of_nodup_append h), ih]
    · simp
    · simpa using h

lemma collapse_of_nodup {ms : List (String × Value)} (h : (Entries.names ms).Nodup) :
    collapse ms = ms :=
  foldl_put ms [] h

/-! ### Values -/

mutual

/-- The value is nested within the room, and no object repeats a key. -/
def Value.Fits (room : Nat) : Value → Prop
  | .array vs => match room with
    | 0 => False
    | room + 1 => ItemsFit room vs
  | .object ms => match room with
    | 0 => False
    | room + 1 => (Entries.names ms).Nodup ∧ MembersFit room ms
  | .null | .bool _ | .number _ | .string _ => True

def ItemsFit (room : Nat) : List Value → Prop
  | [] => True
  | v :: vs => v.Fits room ∧ ItemsFit room vs

def MembersFit (room : Nat) : List (String × Value) → Prop
  | [] => True
  | (_, v) :: ms => v.Fits room ∧ MembersFit room ms

end

lemma membersFit_iff {room : Nat} {ms : List (String × Value)} :
    MembersFit room ms ↔ ∀ m ∈ ms, m.2.Fits room := by
  induction ms with
  | nil => simp [MembersFit]
  | cons m ms ih => simp [MembersFit, ih]

lemma itemsFit_iff {room : Nat} {vs : List Value} :
    ItemsFit room vs ↔ ∀ v ∈ vs, v.Fits room := by
  induction vs with
  | nil => simp [ItemsFit]
  | cons v vs ih => simp [ItemsFit, ih]

lemma membersReadable_iff {ms : List (String × Value)} :
    MembersReadable ms ↔ ∀ m ∈ ms, m.2.Readable := by
  induction ms with
  | nil => simp [MembersReadable]
  | cons m ms ih => simp [MembersReadable, ih]

lemma itemsReadable_iff {vs : List Value} : ItemsReadable vs ↔ ∀ v ∈ vs, v.Readable := by
  induction vs with
  | nil => simp [ItemsReadable]
  | cons v vs ih => simp [ItemsReadable, ih]

namespace Draft

mutual

/-- A value that fits is read back as it is. -/
theorem value_ofValue (room : Nat) (v : Value) (h : v.Fits room) :
    value room (ofValue v) = .ok v := by
  match v, room, h with
  | .null, _, _ | .bool _, _, _ | .number _, _, _ | .string _, _, _ => rfl
  | .array vs, room + 1, h =>
    rw [ofValue, value, values_ofValues room vs h]
    rfl
  | .object ms, room + 1, h =>
    rw [ofValue, value, memberValues_ofMembers room ms h.2]
    simp [bind, Except.bind, endOf, collapse_of_nodup h.1, pure, Except.pure]

theorem values_ofValues (room : Nat) (vs : List Value) (h : ItemsFit room vs) :
    values room (ofValues vs) = .ok vs := by
  match vs, h with
  | [], _ => rfl
  | v :: vs, h =>
    rw [ofValues, values, value_ofValue room v h.1, values_ofValues room vs h.2]
    rfl

theorem memberValues_ofMembers (room : Nat) (ms : List (String × Value)) (h : MembersFit room ms) :
    memberValues room (ofMembers ms) = .ok ms := by
  match ms, h with
  | [], _ => rfl
  | (k, v) :: ms, h =>
    rw [ofMembers, memberValues, value_ofValue room v h.1, memberValues_ofMembers room ms h.2]
    rfl

end

lemma fits_of_scalar {room : Nat} {s : Scalar} {v : Value} (h : s.value = .ok v) :
    v.Fits room := by
  unfold Scalar.value at h
  split at h <;> cases h <;> trivial

lemma membersFit_collapse {room : Nat} {ms : List (String × Value)} (h : MembersFit room ms) :
    MembersFit room (collapse ms) := by
  rw [membersFit_iff] at h ⊢
  intro m hm
  exact h m (collapse_subset ms hm)

mutual

/-- Every value that is read fits. -/
theorem fits_of_value {room : Nat} {d : Draft} {v : Value} (h : value room d = .ok v) :
    v.Fits room := by
  match d, room with
  | .scalar s, room => exact fits_of_scalar h
  | .broken b, room => simp [value] at h
  | .array items ending, 0 => simp [value] at h
  | .object members ending, 0 => simp [value] at h
  | .array items ending, room + 1 =>
    simp only [value, bind_eq_ok, pure_eq_ok] at h
    obtain ⟨vs, hvs, -, -, rfl⟩ := h
    exact fits_of_values hvs
  | .object members ending, room + 1 =>
    simp only [value, bind_eq_ok, pure_eq_ok] at h
    obtain ⟨ms, hms, -, -, rfl⟩ := h
    exact ⟨names_collapse_nodup ms, membersFit_collapse (fits_of_memberValues hms)⟩

theorem fits_of_values {room : Nat} {ds : List Draft} {vs : List Value}
    (h : values room ds = .ok vs) : ItemsFit room vs := by
  match ds with
  | [] =>
    obtain rfl := Except.ok.inj h
    trivial
  | d :: ds =>
    simp only [values, bind_eq_ok, pure_eq_ok] at h
    obtain ⟨v, hv, vs, hvs, rfl⟩ := h
    exact ⟨fits_of_value hv, fits_of_values hvs⟩

theorem fits_of_memberValues {room : Nat} {ds : List (Option String × Draft)}
    {ms : List (String × Value)} (h : memberValues room ds = .ok ms) : MembersFit room ms := by
  match ds with
  | [] =>
    obtain rfl := Except.ok.inj h
    trivial
  | (none, d) :: ds => simp [memberValues] at h
  | (some k, d) :: ds =>
    simp only [memberValues, bind_eq_ok, pure_eq_ok] at h
    obtain ⟨v, hv, vs, hvs, rfl⟩ := h
    exact ⟨fits_of_value hv, fits_of_memberValues hvs⟩

end

end Draft

/-! ### Readers -/

lemma mapM_eq_ok {α β ε : Type} {f : α → Except ε β} {g : α → β} {xs : List α}
    (h : ∀ x ∈ xs, f x = .ok (g x)) : xs.mapM f = .ok (xs.map g) := by
  induction xs with
  | nil => rfl
  | cons x xs ih =>
    rw [List.mapM_cons, h x (by simp), ih fun y hy => h y (by simp [hy])]
    rfl

section Readers

variable {α β κ : Type}

lemma Reader.list_written {r : Reader α} {room : Nat} {enc : β → Value} {g : β → α} {xs : List β}
    (h : ∀ x ∈ xs, r room (.ofValue (enc x)) = .ok (g x)) :
    r.list (room + 1) (.ofValue (.array (xs.map enc))) = .ok (xs.map g) := by
  have hitems : (Draft.ofValues (xs.map enc)).mapM (r room) = .ok (xs.map g) := by
    rw [Draft.ofValues_eq_map, List.map_map, List.mapM_map]
    exact mapM_eq_ok h
  rw [Draft.ofValue, Reader.list, hitems]
  rfl

variable [DecidableEq κ] (F : Fields κ α)

/-- The members of a record are read back field by field. -/
lemma Fields.ofMembers_written {room : Nat} {g : κ × Value → α} {t : List (κ × Value)}
    {seen : List κ} (hfind : ∀ k, F.find? (F.name k) = some k)
    (hread : ∀ m ∈ t, F.read m.1 room (.ofValue m.2) = .ok (g m))
    (hseen : (t.map (·.1)).Nodup) (hnew : ∀ m ∈ t, m.1 ∉ seen) :
    F.ofMembers room seen (t.map fun m => (some (F.name m.1), .ofValue m.2))
      = .ok (t.map fun m => (m.1, g m)) := by
  induction t generalizing seen with
  | nil => rfl
  | cons m t ih =>
    have hnext : ∀ x ∈ t, x.1 ∉ m.1 :: seen := by
      intro x hx
      have hne : x.1 ≠ m.1 := by
        intro heq
        exact (List.nodup_cons.mp hseen).1 (List.mem_map.mpr ⟨x, hx, heq⟩)
      simpa [hne] using hnew x (by simp [hx])
    have hrest := ih (fun x hx => hread x (by simp [hx])) (List.nodup_cons.mp hseen).2 hnext
    simp only [List.map_cons, Fields.ofMembers, hfind, if_neg (hnew m (by simp)),
      hread m (by simp), hrest]
    rfl

/-- A record is read back as the table that was written. -/
theorem Fields.table_written {room : Nat} {g : κ × Value → α} {t : List (κ × Value)}
    (hfind : ∀ k, F.find? (F.name k) = some k)
    (hread : ∀ m ∈ t, F.read m.1 room (.ofValue m.2) = .ok (g m))
    (hkeys : (t.map (·.1)).Nodup) :
    F.table (room + 1) (.ofValue (.object (t.map fun m => (F.name m.1, m.2))))
      = .ok (t.map fun m => (m.1, g m)) := by
  have hms : F.ofMembers room [] (Draft.ofMembers (t.map fun m => (F.name m.1, m.2)))
      = .ok (t.map fun m => (m.1, g m)) := by
    rw [Draft.ofMembers_eq_map, List.map_map]
    exact F.ofMembers_written hfind hread hkeys (by simp)
  rw [Draft.ofValue, Fields.table, hms]
  rfl

end Readers

/-! ### What readers give -/

/-- Whatever the reader gives has a property. -/
def Reader.Yields {α : Type} (r : Reader α) (P : α → Prop) : Prop :=
  ∀ ⦃room d a⦄, r room d = .ok a → P a

section Yields

variable {α β κ : Type} {r : Reader α} {P : α → Prop}

/-- A text is read when its draft is and nothing is left over. -/
lemma Reader.read_eq_ok {text : String} {a : α} : r.read text = .ok a ↔
    r nesting (Draft.ofText text).1 = .ok a ∧ (Draft.ofText text).2 = false := by
  rcases hd : Draft.ofText text with ⟨d, surplus⟩
  cases hr : r nesting d <;> cases surplus <;>
    simp [Reader.read, hd, hr, bind, Except.bind, pure, Except.pure, throw, throwThe,
      MonadExceptOf.throw]

/-- A value that can be read back is read from its text. -/
lemma read_pretty {v : Value} (hr : v.Readable) (hf : v.Fits nesting) :
    Reader.value.read v.pretty = .ok v := by
  have hend : tokens [] = [] := by simp [tokens]
  have hrest : Delimited [] := trivial
  have hdraft := Draft.ofText_chars .pretty hr hrest hend
  rw [List.append_nil] at hdraft
  rw [Reader.read_eq_ok, Value.pretty, hdraft]
  exact ⟨Draft.value_ofValue _ _ hf, rfl⟩

lemma not_refuse {d : Draft} {a : α} : d.refuse ≠ .ok a := by
  intro h
  unfold Draft.refuse at h
  split at h
  · rename_i s
    cases hs : s.value <;> simp [hs, bind, Except.bind, throw, throwThe, MonadExceptOf.throw] at h
  · cases h
  · cases h
  · cases h

lemma of_mapM {f : β → Except Error α} (hf : ∀ x a, f x = .ok a → P a) {xs : List β} {as : List α}
    (h : xs.mapM f = .ok as) : ∀ a ∈ as, P a := by
  induction xs generalizing as with
  | nil =>
    obtain rfl := Except.ok.inj h
    simp
  | cons x xs ih =>
    simp only [List.mapM_cons, bind_eq_ok, pure_eq_ok] at h
    obtain ⟨a, hx, as, hxs, rfl⟩ := h
    exact List.forall_mem_cons.mpr ⟨hf x a hx, ih hxs⟩

lemma Reader.Yields.list (h : r.Yields P) : r.list.Yields fun as => ∀ a ∈ as, P a := by
  intro room d as has
  unfold Reader.list at has
  split at has
  · cases has
  · rename_i items ending room
    simp only [bind_eq_ok, pure_eq_ok] at has
    obtain ⟨as, hitems, -, -, rfl⟩ := has
    exact of_mapM (fun x a hx => h hx) hitems
  · exact absurd has not_refuse

lemma Reader.Yields.option (h : r.Yields P) : r.option.Yields fun o => ∀ a, o = some a → P a := by
  intro room d o ho
  unfold Reader.option at ho
  split at ho
  · obtain rfl := Except.ok.inj ho
    simp
  · obtain ⟨a, hd, rfl⟩ := map_eq_ok.mp ho
    simpa using h hd

lemma Reader.Yields.read (h : r.Yields P) {text : String} {a : α} (ha : r.read text = .ok a) :
    P a :=
  h (Reader.read_eq_ok.mp ha).1

variable [DecidableEq κ] {F : Fields κ α} {Q : κ → α → Prop}

lemma Fields.of_ofMembers (h : ∀ k, Reader.Yields (F.read k) (Q k)) {room : Nat} {seen : List κ}
    {ms : List (Option String × Draft)} {t : List (κ × α)}
    (ht : F.ofMembers room seen ms = .ok t) : ∀ x ∈ t, Q x.1 x.2 := by
  induction ms generalizing seen t with
  | nil =>
    obtain rfl := Except.ok.inj ht
    simp
  | cons m ms ih =>
    obtain ⟨_ | key, d⟩ := m
    · cases ht
    · rw [Fields.ofMembers] at ht
      split at ht
      · obtain ⟨-, -, ht⟩ := bind_eq_ok.mp ht
        exact ih ht
      · rename_i k hk
        split at ht
        · cases ht
        · simp only [bind_eq_ok, pure_eq_ok] at ht
          obtain ⟨a, ha, rest, hms, rfl⟩ := ht
          exact List.forall_mem_cons.mpr ⟨h k ha, ih hms⟩

omit [DecidableEq κ] in
lemma Fields.of_ofItems (h : ∀ k, Reader.Yields (F.read k) (Q k)) {room : Nat} {ks : List κ}
    {ds : List Draft} {t : List (κ × α)} (ht : F.ofItems room ks ds = .ok t) :
    ∀ x ∈ t, Q x.1 x.2 := by
  induction ds generalizing ks t with
  | nil =>
    rw [Fields.ofItems] at ht
    obtain rfl := Except.ok.inj ht
    simp
  | cons d ds ih =>
    cases ks with
    | nil => cases ht
    | cons k ks =>
      rw [Fields.ofItems] at ht
      simp only [bind_eq_ok, pure_eq_ok] at ht
      obtain ⟨a, ha, rest, hds, rfl⟩ := ht
      exact List.forall_mem_cons.mpr ⟨h k ha, ih hds⟩

/-- What every field gives is in the table of a record. -/
theorem Fields.yields_table (h : ∀ k, Reader.Yields (F.read k) (Q k)) :
    Reader.Yields F.table fun t => ∀ x ∈ t, Q x.1 x.2 := by
  intro room d t ht
  unfold Fields.table at ht
  split at ht
  · cases ht
  · cases ht
  · rename_i items ending room
    simp only [bind_eq_ok, pure_eq_ok] at ht
    obtain ⟨t, hitems, -, -, rfl⟩ := ht
    exact Fields.of_ofItems h hitems
  · rename_i members ending room
    simp only [bind_eq_ok, pure_eq_ok] at ht
    obtain ⟨t, hmembers, -, -, rfl⟩ := ht
    exact Fields.of_ofMembers h hmembers
  · exact absurd ht not_refuse

/-- A record that takes in its fields one by one keeps what each of them preserves. -/
theorem Fields.yields_fold {σ : Type} {I : σ → Prop} {take : σ → α → σ} {start : σ}
    (h : ∀ k, Reader.Yields (F.read k) (Q k)) (hstart : I start)
    (htake : ∀ s k a, I s → Q k a → I (take s a)) :
    Reader.Yields
      (fun room d => (F.table room d).map fun t => t.foldl (fun s p => take s p.2) start) I := by
  intro room d r hr
  obtain ⟨t, ht, rfl⟩ := map_eq_ok.mp hr
  have hall := Fields.yields_table h ht
  clear ht hr
  induction t generalizing start with
  | nil => exact hstart
  | cons x t ih =>
    obtain ⟨hx, ht⟩ := List.forall_mem_cons.mp hall
    exact ih (htake start x.1 x.2 hstart hx) ht

end Yields

end Storyboard.Json
