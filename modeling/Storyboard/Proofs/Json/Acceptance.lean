import Mathlib.Data.List.Count
import Mathlib.Data.List.Forall2
import Storyboard.Proofs.Json.Read

/-!
# Readers and the values of drafts

Where a draft has a value, what a reader does can be said without the draft: of which shape the
value must be, and how the value and what is read belong together. For records this needs that the
draft is no array and repeats no known key, since the value does not tell.
-/

namespace Storyboard.Json

variable {α β κ : Type}

/-- What a function that can fail gives for the entries of a list, one by one. -/
lemma forall₂_of_mapM {f : α → Except Error β} {xs : List α} {ys : List β}
    (h : xs.mapM f = .ok ys) : List.Forall₂ (fun x y => f x = .ok y) xs ys := by
  induction xs generalizing ys with
  | nil =>
    obtain rfl := Except.ok.inj h
    exact .nil
  | cons x xs ih =>
    simp only [List.mapM_cons, bind_eq_ok, pure_eq_ok] at h
    obtain ⟨y, hx, ys, hxs, rfl⟩ := h
    exact .cons hx (ih hxs)

/-! ### Parts of values and drafts -/

/-- The value of a key, if the value is an object that has it. -/
def Value.member? (key : String) : Value → Option Value
  | .object ms => Entries.get? key ms
  | _ => none

/-- The value is an object. -/
def Value.IsObject : Value → Prop
  | .object _ => True
  | _ => False

namespace Draft

def isArray : Draft → Bool
  | .array _ _ => true
  | _ => false

/-- The items of an array; none for any other draft. -/
def items : Draft → List Draft
  | .array items _ => items
  | _ => []

/-- The keys of an object with all repetitions; none for any other draft. -/
def keys : Draft → List (Option String)
  | .object members _ => members.map (·.1)
  | _ => []

/-- Everything that stands under a key of an object. -/
def under (key : String) : Draft → List Draft
  | .object members _ => members.filterMap fun m => if m.1 = some key then some m.2 else none
  | _ => []

/-- The draft has the value, and its parts have those of the value. -/
inductive Denotes : Nat → Draft → Value → Prop
  | scalar {room : Nat} {s : Scalar} {v : Value} (h : s.value = .ok v) : Denotes room (.scalar s) v
  | array {room : Nat} {items : List Draft} {vs : List Value}
      (h : List.Forall₂ (fun d v => value room d = .ok v) items vs) :
      Denotes (room + 1) (.array items none) (.array vs)
  | object {room : Nat} {members : List (Option String × Draft)} {es : List (String × Value)}
      (h : List.Forall₂ (fun m e => m.1 = some e.1 ∧ value room m.2 = .ok e.2) members es) :
      Denotes (room + 1) (.object members none) (.object (collapse es))

lemma endOf_eq_ok {ending : Option Break} : endOf ending = .ok () ↔ ending = none := by
  cases ending <;> simp [endOf]

lemma values_eq_mapM (room : Nat) (ds : List Draft) : values room ds = ds.mapM (value room) := by
  induction ds with
  | nil => rfl
  | cons d ds ih =>
    rw [values, ih, List.mapM_cons]

lemma memberValues_eq_ok {room : Nat} {ds : List (Option String × Draft)}
    {es : List (String × Value)} (h : memberValues room ds = .ok es) :
    List.Forall₂ (fun m e => m.1 = some e.1 ∧ value room m.2 = .ok e.2) ds es := by
  induction ds generalizing es with
  | nil =>
    obtain rfl := Except.ok.inj h
    exact .nil
  | cons m ds ih =>
    obtain ⟨_ | k, d⟩ := m
    · cases h
    · simp only [memberValues, bind_eq_ok, pure_eq_ok] at h
      obtain ⟨v, hv, es, hes, rfl⟩ := h
      exact .cons ⟨rfl, hv⟩ (ih hes)

/-- A value is read of a draft part by part. -/
theorem denotes_of_value {room : Nat} {d : Draft} {v : Value} (h : value room d = .ok v) :
    Denotes room d v := by
  cases d with
  | scalar s => exact .scalar h
  | broken b => simp [value] at h
  | array items ending =>
    cases room with
    | zero => simp [value] at h
    | succ room =>
      simp only [value, bind_eq_ok, pure_eq_ok] at h
      obtain ⟨vs, hvs, _, hend, rfl⟩ := h
      obtain rfl := endOf_eq_ok.mp hend
      rw [values_eq_mapM] at hvs
      exact .array (forall₂_of_mapM hvs)
  | object members ending =>
    cases room with
    | zero => simp [value] at h
    | succ room =>
      simp only [value, bind_eq_ok, pure_eq_ok] at h
      obtain ⟨es, hms, _, hend, rfl⟩ := h
      obtain rfl := endOf_eq_ok.mp hend
      exact .object (memberValues_eq_ok hms)

mutual

/-- What has a value can be passed over. -/
theorem skip_of_value {room : Nat} {d : Draft} {v : Value} (h : value room d = .ok v) :
    d.skip = .ok () := by
  match d, denotes_of_value h with
  | .scalar s, _ => rfl
  | .array items none, .array hvs =>
    rw [skip, skipItems_of_values hvs]
    rfl
  | .object members none, .object hes =>
    rw [skip, skipMembers_of_memberValues hes]
    rfl

theorem skipItems_of_values {room : Nat} {ds : List Draft} {vs : List Value}
    (h : List.Forall₂ (fun d v => value room d = .ok v) ds vs) : skipItems ds = .ok () := by
  match ds, h with
  | [], _ => rfl
  | d :: ds, .cons hd hds =>
    rw [skipItems, skip_of_value hd]
    exact skipItems_of_values hds

theorem skipMembers_of_memberValues {room : Nat} {ms : List (Option String × Draft)}
    {es : List (String × Value)}
    (h : List.Forall₂ (fun m e => m.1 = some e.1 ∧ value room m.2 = .ok e.2) ms es) :
    skipMembers ms = .ok () := by
  match ms, h with
  | [], _ => rfl
  | (k, d) :: ms, .cons hd hds =>
    rw [skipMembers, skip_of_value hd.2]
    exact skipMembers_of_memberValues hds

end

end Draft

/-! ### Readers of single values -/

/-- Of the drafts that are plain and have values, the reader takes those whose values have a shape,
and a value and what is read of its draft are related. -/
structure Reader.Accepts (r : Reader α) (plain : Draft → Prop) (shape : Value → Prop)
    (R : Value → α → Prop) : Prop where
  takes : ∀ {room d v}, plain d → Draft.value room d = .ok v → ((∃ a, r room d = .ok a) ↔ shape v)
  gives : ∀ {room d v a}, plain d → Draft.value room d = .ok v → r room d = .ok a → R v a

section Accepts

variable {r : Reader α} {plain plain' : Draft → Prop} {shape shape' : Value → Prop}
  {R : Value → α → Prop} {S : Value → β → Prop}

lemma Reader.accepts_value : Reader.value.Accepts (fun _ => True) (fun _ => True) Eq where
  takes _ h := iff_of_true ⟨_, h⟩ trivial
  gives _ h ha := Except.ok.inj (h.symm.trans ha)

/-- What is read is changed, and drafts and shapes are described otherwise. -/
lemma Reader.Accepts.map (h : r.Accepts plain shape R) {f : α → β}
    (hplain : ∀ d, plain' d → plain d) (hshape : ∀ v, shape v ↔ shape' v)
    (hf : ∀ v a, R v a → S v (f a)) :
    Reader.Accepts (fun room d => (r room d).map f) plain' shape' S where
  takes {room d v} hd hv := by
    rw [← hshape, ← h.takes (hplain d hd) hv]
    constructor
    · rintro ⟨b, hb⟩
      obtain ⟨a, ha, -⟩ := map_eq_ok.mp hb
      exact ⟨a, ha⟩
    · rintro ⟨a, ha⟩
      exact ⟨f a, map_eq_ok.mpr ⟨a, ha, rfl⟩⟩
  gives {room d v b} hd hv hb := by
    obtain ⟨a, ha, rfl⟩ := map_eq_ok.mp hb
    exact hf v a (h.gives (hplain d hd) hv ha)

lemma value_eq_null {room : Nat} {d : Draft} {v : Value} (h : Draft.value room d = .ok v) :
    v = .null ↔ d = .scalar .null := by
  cases Draft.denotes_of_value h with
  | scalar hs =>
    unfold Scalar.value at hs
    split at hs <;> cases hs <;> simp
  | array => simp
  | object => simp

/-- Null is read as nothing. -/
lemma Reader.Accepts.option (h : r.Accepts plain shape R) :
    r.option.Accepts plain (fun v => v = .null ∨ shape v) fun v o =>
      (v = .null → o = none) ∧ (v ≠ .null → ∃ a, o = some a ∧ R v a) := by
  have hother {room : Nat} {d : Draft} (hd : d ≠ .scalar .null) :
      r.option room d = (r room d).map some := by
    unfold Reader.option
    split
    · exact absurd rfl hd
    · rfl
  have hsome : Reader.Accepts (fun room d => (r room d).map some) plain shape fun v o =>
      ∃ a, o = some a ∧ R v a :=
    h.map (fun _ hd => hd) (fun _ => Iff.rfl) fun v a ha => ⟨a, rfl, ha⟩
  constructor
  · intro room d v hd hv
    by_cases hnull : d = .scalar .null
    · rw [hnull]
      exact iff_of_true ⟨none, rfl⟩ (.inl ((value_eq_null hv).mpr hnull))
    · rw [hother hnull, hsome.takes hd hv, or_iff_right (mt (value_eq_null hv).mp hnull)]
  · intro room d v o hd hv ho
    by_cases hnull : d = .scalar .null
    · rw [hnull] at ho
      refine ⟨fun _ => (Except.ok.inj ho).symm, fun hne => ?_⟩
      exact absurd ((value_eq_null hv).mpr hnull) hne
    · rw [hother hnull] at ho
      exact ⟨fun hv' => absurd ((value_eq_null hv).mp hv') hnull, fun _ => hsome.gives hd hv ho⟩

lemma exists_mapM_iff {f : α → Except Error β} {xs : List α} :
    (∃ ys, xs.mapM f = .ok ys) ↔ ∀ x ∈ xs, ∃ y, f x = .ok y := by
  induction xs with
  | nil => exact iff_of_true ⟨[], rfl⟩ (by simp)
  | cons x xs ih =>
    simp only [List.forall_mem_cons, ← ih, List.mapM_cons, bind_eq_ok, pure_eq_ok]
    constructor
    · rintro ⟨_, y, hx, ys, hxs, rfl⟩
      exact ⟨⟨y, hx⟩, ys, hxs⟩
    · rintro ⟨⟨y, hx⟩, ys, hxs⟩
      exact ⟨y :: ys, y, hx, ys, hxs, rfl⟩

lemma forall_mem_iff_of_forall₂ {p : α → Prop} {q : β → Prop} {xs : List α} {ys : List β}
    (h : List.Forall₂ (fun x y => p x ↔ q y) xs ys) : (∀ x ∈ xs, p x) ↔ ∀ y ∈ ys, q y := by
  induction h with
  | nil => simp
  | cons hxy _ ih => rw [List.forall_mem_cons, List.forall_mem_cons, hxy, ih]

/-- Two lists that go with a third one go with each other. -/
lemma forall₂_across {γ : Type} {P : α → β → Prop} {Q : α → γ → Prop} {T : β → γ → Prop}
    (h : ∀ x y z, P x y → Q x z → T y z) {xs : List α} {ys : List β} {zs : List γ}
    (hys : List.Forall₂ P xs ys) (hzs : List.Forall₂ Q xs zs) : List.Forall₂ T ys zs := by
  induction hys generalizing zs with
  | nil =>
    cases hzs
    exact .nil
  | cons hxy _ ih =>
    cases hzs with
    | cons hxz hzs => exact .cons (h _ _ _ hxy hxz) (ih hzs)

lemma Scalar.value_ne {s : Scalar} {v : Value} (h : s.value = .ok v) :
    (∀ vs, v ≠ .array vs) ∧ ¬ v.IsObject := by
  unfold Scalar.value at h
  split at h <;> cases h <;> simp [Value.IsObject]

lemma Reader.list_of_not_array {room : Nat} {d : Draft} (h : d.isArray = false) :
    r.list room d = d.refuse := by
  cases d with
  | array items ending => cases h
  | _ => cases room <;> rfl

lemma Reader.list_array (room : Nat) (items : List Draft) :
    r.list (room + 1) (.array items none) = items.mapM (r room) := by
  rw [Reader.list]
  cases items.mapM (r room) <;> rfl

/-- An array is read item by item. -/
lemma Reader.Accepts.list (h : r.Accepts plain shape R) :
    r.list.Accepts (fun d => ∀ i ∈ d.items, plain i)
      (fun v => ∃ vs, v = .array vs ∧ ∀ x ∈ vs, shape x)
      fun v as => ∃ vs, v = .array vs ∧ List.Forall₂ R vs as := by
  constructor
  · intro room d v hd hv
    cases Draft.denotes_of_value hv with
    | scalar hs =>
      refine iff_of_false ?_ ?_
      · rintro ⟨as, has⟩
        rw [Reader.list_of_not_array rfl] at has
        exact not_refuse has
      · rintro ⟨vs, hvs, -⟩
        exact (Scalar.value_ne hs).1 vs hvs
    | @array room items vs hvs =>
      have hitems := (List.forall₂_and_left items vs).mpr ⟨hd, hvs⟩
      have htakes : (∀ i ∈ items, ∃ a, r room i = .ok a) ↔ ∀ x ∈ vs, shape x :=
        forall_mem_iff_of_forall₂ (hitems.imp fun i x hx => h.takes hx.1 hx.2)
      rw [Reader.list_array, exists_mapM_iff, htakes]
      simp
    | object hes =>
      refine iff_of_false ?_ (by simp)
      rintro ⟨as, has⟩
      rw [Reader.list_of_not_array rfl] at has
      exact not_refuse has
  · intro room d v as hd hv has
    cases Draft.denotes_of_value hv with
    | @array room items vs hvs =>
      rw [Reader.list_array] at has
      have hitems := (List.forall₂_and_left items vs).mpr ⟨hd, hvs⟩
      refine ⟨vs, rfl, forall₂_across ?_ hitems (forall₂_of_mapM has)⟩
      exact fun i x a hx ha => h.gives hx.1 hx.2 ha
    | scalar | object =>
      rw [Reader.list_of_not_array rfl] at has
      exact absurd has not_refuse

/-- A text that has a value is read as its draft is. -/
theorem Reader.Accepts.read (h : r.Accepts plain shape R) {text : String} {v : Value}
    (hplain : plain (Draft.ofText text).1) (hv : Reader.value.read text = .ok v) :
    ((∃ a, r.read text = .ok a) ↔ shape v) ∧ ∀ a, r.read text = .ok a → R v a := by
  obtain ⟨hvalue, hend⟩ := Reader.read_eq_ok.mp hv
  simp only [Reader.read_eq_ok, hend, and_true]
  exact ⟨h.takes hplain hvalue, fun a => h.gives hplain hvalue⟩

end Accepts

/-! ### Records -/

section Records

variable {F : Fields κ α} {es : List (String × Value)} {e : String × Value} {k : κ}

/-- The known fields among the members of an object, in the order of the members. -/
def Fields.known (F : Fields κ α) (es : List (String × Value)) : List (κ × Value) :=
  es.filterMap fun e => (F.find? e.1).map fun k => (k, e.2)

/-- The draft is no array, and no known key occurs twice in it. -/
def Fields.Plain (F : Fields κ α) (d : Draft) : Prop :=
  d.isArray = false ∧ ∀ k ∈ F.all, d.keys.count (some (F.name k)) ≤ 1

instance (F : Fields κ α) (d : Draft) : Decidable (F.Plain d) :=
  inferInstanceAs (Decidable (_ ∧ _))

lemma Fields.known_cons_of_none (h : F.find? e.1 = none) : F.known (e :: es) = F.known es := by
  simp [known, h]

lemma Fields.known_cons_of_some (h : F.find? e.1 = some k) :
    F.known (e :: es) = (k, e.2) :: F.known es := by
  simp [known, h]

/-- A key that occurs at most once has the value that is put in for it. -/
lemma get?_collapse {key : String} (h : (Entries.names es).count key ≤ 1) :
    Entries.get? key (collapse es) = Entries.get? key es := by
  have hfold : ∀ (es acc : List (String × Value)), (Entries.names es).count key ≤ 1 →
      Entries.get? key (es.foldl (fun ms m => Entries.put m.1 m.2 ms) acc)
        = (Entries.get? key es).or (Entries.get? key acc) := by
    intro es
    induction es with
    | nil => exact fun acc _ => rfl
    | cons e es ih =>
      intro acc h
      rw [Entries.names_cons, List.count_cons] at h
      rw [List.foldl_cons, ih _ (by omega), Entries.get?_put]
      by_cases hkey : e.1 = key
      · have hnone : Entries.get? key es = none := by
          rw [if_pos (by simpa using hkey)] at h
          rw [Entries.get?_eq_none_iff, ← List.count_eq_zero]
          omega
        simp [Entries.get?, hkey, hnone]
      · simp [Entries.get?, hkey]
  rw [collapse, hfold es [] h]
  simp [Entries.get?]

lemma Fields.name_of_find? {key : String} (h : F.find? key = some k) : key = F.name k := by
  have hname : F.name k = key := by simpa using List.find?_some h
  exact hname.symm

lemma Fields.find?_eq_some (hfind : ∀ k, F.find? (F.name k) = some k) {key : String} :
    F.find? key = some k ↔ key = F.name k := by
  refine ⟨name_of_find?, ?_⟩
  rintro rfl
  exact hfind k

variable [DecidableEq κ]

section Known

variable (hfind : ∀ k, F.find? (F.name k) = some k)

include hfind

lemma Fields.lookup_known (k : κ) (es : List (String × Value)) :
    (F.known es).lookup k = Entries.get? (F.name k) es := by
  induction es with
  | nil => rfl
  | cons e es ih =>
    cases hkey : F.find? e.1 with
    | none =>
      have hne : e.1 ≠ F.name k := by
        intro heq
        simp [heq, hfind] at hkey
      rw [known_cons_of_none hkey, ih, Entries.get?, if_neg hne]
    | some j =>
      rw [known_cons_of_some hkey, List.lookup_cons, Entries.get?, ih]
      by_cases hj : k = j
      · subst hj
        simp [(find?_eq_some hfind).mp hkey]
      · have hne : e.1 ≠ F.name k := by
          intro heq
          rw [heq, hfind] at hkey
          exact hj (Option.some.inj hkey)
        rw [if_neg hne, beq_false_of_ne hj]

lemma Fields.count_known (k : κ) (es : List (String × Value)) :
    ((F.known es).map (·.1)).count k = (Entries.names es).count (F.name k) := by
  induction es with
  | nil => rfl
  | cons e es ih =>
    have hiff : F.find? e.1 = some k ↔ e.1 = F.name k := find?_eq_some hfind
    cases hkey : F.find? e.1 with
    | none =>
      have hne : e.1 ≠ F.name k := fun heq => by simp [hiff.mpr heq] at hkey
      rw [known_cons_of_none hkey, ih, Entries.names_cons, List.count_cons_of_ne hne]
    | some j =>
      rw [hkey, Option.some.injEq] at hiff
      rw [known_cons_of_some hkey, List.map_cons, List.count_cons, ih, Entries.names_cons,
        List.count_cons]
      simp only [beq_iff_eq, hiff]

end Known

/-- In a list without repeated keys, lookup finds every entry. -/
lemma mem_iff_lookup {l : List (κ × β)} (h : (l.map (·.1)).Nodup) {x : κ × β} :
    x ∈ l ↔ l.lookup x.1 = some x.2 := by
  induction l with
  | nil => simp
  | cons y l ih =>
    obtain ⟨hy, hl⟩ := List.nodup_cons.mp h
    by_cases hx : x.1 = y.1
    · have hnone : x ∉ l := fun hmem => hy (List.mem_map.mpr ⟨x, hmem, hx⟩)
      rw [List.mem_cons, or_iff_left hnone, List.lookup_cons, hx, beq_self_eq_true]
      constructor
      · rintro rfl
        rfl
      · intro hsome
        exact Prod.ext hx (Option.some.inj hsome).symm
    · have hne : x ≠ y := fun heq => hx (congrArg Prod.fst heq)
      rw [List.mem_cons, or_iff_right hne, ih hl, List.lookup_cons, beq_false_of_ne hx]

lemma rel_cases {γ : Type} {R : β → γ → Prop} {o : Option β} {p : Option γ}
    (h : Option.Rel R o p) :
    o = none ∧ p = none ∨ ∃ x y, o = some x ∧ p = some y ∧ R x y := by
  cases h with
  | none => exact .inl ⟨rfl, rfl⟩
  | some hR => exact .inr ⟨_, _, rfl, rfl, hR⟩

/-- Entries that go together are found together. -/
lemma rel_lookup {γ : Type} {R : κ → β → γ → Prop} {l : List (κ × β)} {m : List (κ × γ)}
    (h : List.Forall₂ (fun x y => x.1 = y.1 ∧ R x.1 x.2 y.2) l m) (k : κ) :
    Option.Rel (R k) (l.lookup k) (m.lookup k) := by
  induction h with
  | nil => exact .none
  | @cons x y l m hxy _ ih =>
    obtain ⟨hkey, hR⟩ := hxy
    rw [List.lookup_cons, List.lookup_cons, ← hkey]
    by_cases hk : k = x.1
    · subst hk
      simpa using Option.Rel.some hR
    · rw [beq_false_of_ne hk]
      exact ih

variable {plain : κ → Draft → Prop} {shape : κ → Value → Prop} {R : κ → Value → α → Prop}

lemma Fields.ofMembers_eq_ok {room : Nat} {seen : List κ} {key : String} {d : Draft}
    {ms : List (Option String × Draft)} {t : List (κ × α)} (hkey : F.find? key = some k)
    (hk : k ∉ seen) : F.ofMembers room seen ((some key, d) :: ms) = .ok t ↔
      ∃ a rest, F.read k room d = .ok a ∧ F.ofMembers room (k :: seen) ms = .ok rest ∧
        (k, a) :: rest = t := by
  simp only [ofMembers, hkey, if_neg hk, bind_eq_ok, pure_eq_ok, ← exists_and_left]

lemma Fields.table_of_not_object {room : Nat} {d : Draft} (h : d.isArray = false)
    (hkeys : ∀ members ending, d ≠ .object members ending) : F.table room d = d.refuse := by
  cases d with
  | array items ending => cases h
  | object members ending => exact absurd rfl (hkeys members ending)
  | _ => cases room <;> rfl

lemma Fields.table_object (room : Nat) (members : List (Option String × Draft)) :
    F.table (room + 1) (.object members none) = F.ofMembers room [] members := by
  rw [Fields.table]
  cases F.ofMembers room [] members <;> rfl

section Once

variable {room : Nat} {members : List (Option String × Draft)}
  (h : List.Forall₂ (fun m e => m.1 = some e.1 ∧ Draft.value room m.2 = .ok e.2) members es)

include h

omit [DecidableEq κ] in
lemma map_fst_members : members.map (·.1) = (Entries.names es).map some := by
  induction h with
  | nil => rfl
  | cons hme _ ih => rw [List.map_cons, ih, hme.1, Entries.names_cons, List.map_cons]

variable (hfind : ∀ k, F.find? (F.name k) = some k) (hplain : F.Plain (.object members none))

include hfind hplain

omit [DecidableEq κ] in
lemma Fields.count_names_le (k : κ) : (Entries.names es).count (F.name k) ≤ 1 := by
  have honce := hplain.2 k (List.mem_of_find?_eq_some (hfind k))
  rw [Draft.keys, map_fst_members h] at honce
  rwa [List.count_map_of_injective _ _ (Option.some_injective _)] at honce

lemma Fields.nodup_known : ((F.known es).map (·.1)).Nodup := by
  rw [List.nodup_iff_count_le_one]
  intro k
  rw [count_known hfind]
  exact count_names_le h hfind hplain k

/-- Where no known key is repeated, the value tells what stands under each of them. -/
lemma Fields.lookup_known_collapse (k : κ) :
    (F.known es).lookup k = (Value.object (collapse es)).member? (F.name k) := by
  rw [lookup_known hfind, Value.member?, get?_collapse (count_names_le h hfind hplain k)]

end Once

section Table

variable (hread : ∀ k, (F.read k).Accepts (plain k) (shape k) (R k))

include hread

/-- The members of a record are read one by one, if every field occurs once. -/
lemma Fields.ofMembers_accepts {room : Nat} {members : List (Option String × Draft)}
    {es : List (String × Value)} {seen : List κ}
    (h : List.Forall₂ (fun m e => m.1 = some e.1 ∧ Draft.value room m.2 = .ok e.2) members es)
    (hplain : ∀ m ∈ members, ∀ k, m.1 = some (F.name k) → plain k m.2)
    (hnodup : ((F.known es).map (·.1)).Nodup) (hseen : ∀ x ∈ F.known es, x.1 ∉ seen) :
    ((∃ t, F.ofMembers room seen members = .ok t) ↔ ∀ x ∈ F.known es, shape x.1 x.2) ∧
      ∀ t, F.ofMembers room seen members = .ok t →
        List.Forall₂ (fun x y => x.1 = y.1 ∧ R x.1 x.2 y.2) (F.known es) t := by
  induction h generalizing seen with
  | nil =>
    refine ⟨iff_of_true ⟨[], rfl⟩ (by simp [known]), fun t ht => ?_⟩
    obtain rfl := Except.ok.inj ht
    exact .nil
  | @cons m e members es hme _ ih =>
    obtain ⟨key, d⟩ := m
    obtain ⟨rfl, hv⟩ := hme
    obtain ⟨hd, hmembers⟩ := List.forall_mem_cons.mp hplain
    cases hkey : F.find? e.1 with
    | none =>
      rw [known_cons_of_none hkey] at hnodup hseen ⊢
      have hskip : F.ofMembers room seen ((some e.1, d) :: members)
          = F.ofMembers room seen members := by
        simp only [ofMembers, hkey, Draft.skip_of_value hv]
        rfl
      rw [hskip]
      exact ih hmembers hnodup hseen
    | some k =>
      rw [known_cons_of_some hkey] at hnodup hseen ⊢
      obtain ⟨hk, hnodup⟩ := List.nodup_cons.mp hnodup
      obtain ⟨hknew, hseen⟩ := List.forall_mem_cons.mp hseen
      have hlater : ∀ x ∈ F.known es, x.1 ∉ k :: seen := by
        intro x hx hmem
        rcases List.mem_cons.mp hmem with heq | hmem
        · exact hk (List.mem_map.mpr ⟨x, hx, heq⟩)
        · exact hseen x hx hmem
      have hdk : plain k d := hd k (congrArg some (name_of_find? hkey))
      obtain ⟨htakes, hgives⟩ := ih hmembers hnodup hlater
      constructor
      · rw [List.forall_mem_cons, ← htakes, ← (hread k).takes hdk hv]
        constructor
        · rintro ⟨t, ht⟩
          obtain ⟨a, rest, ha, hrest, -⟩ := (ofMembers_eq_ok hkey hknew).mp ht
          exact ⟨⟨a, ha⟩, rest, hrest⟩
        · rintro ⟨⟨a, ha⟩, rest, hrest⟩
          exact ⟨_, (ofMembers_eq_ok hkey hknew).mpr ⟨a, rest, ha, hrest, rfl⟩⟩
      · intro t ht
        obtain ⟨a, rest, ha, hrest, rfl⟩ := (ofMembers_eq_ok hkey hknew).mp ht
        exact .cons ⟨rfl, (hread k).gives hdk hv ha⟩ (hgives rest hrest)

/-- A record is read field by field, if it is no array and repeats no known key. -/
theorem Fields.accepts_table (hfind : ∀ k, F.find? (F.name k) = some k) :
    F.table.Accepts (fun d => F.Plain d ∧ ∀ k, ∀ x ∈ d.under (F.name k), plain k x)
      (fun v => v.IsObject ∧ ∀ k w, v.member? (F.name k) = some w → shape k w)
      fun v t => (t.map (·.1)).Nodup ∧
        ∀ k, Option.Rel (R k) (v.member? (F.name k)) (t.lookup k) := by
  have hunder {members : List (Option String × Draft)}
      (hd : ∀ k, ∀ x ∈ (Draft.object members none).under (F.name k), plain k x) :
      ∀ m ∈ members, ∀ k, m.1 = some (F.name k) → plain k m.2 := by
    intro m hm k hk
    exact hd k m.2 (List.mem_filterMap.mpr ⟨m, hm, by simp [hk]⟩)
  constructor
  · rintro room d v ⟨hplain, hd⟩ hv
    cases Draft.denotes_of_value hv with
    | scalar hs =>
      refine iff_of_false ?_ fun hobject => (Scalar.value_ne hs).2 hobject.1
      rintro ⟨t, ht⟩
      rw [table_of_not_object rfl (by simp)] at ht
      exact not_refuse ht
    | array => exact absurd hplain.1 (by simp [Draft.isArray])
    | object hes =>
      have hnodup := nodup_known hes hfind hplain
      rw [table_object, (ofMembers_accepts hread hes (hunder hd) hnodup (by simp)).1]
      constructor
      · intro hall
        refine ⟨trivial, fun k w hw => ?_⟩
        rw [← lookup_known_collapse hes hfind hplain] at hw
        exact hall (k, w) ((mem_iff_lookup hnodup).mpr hw)
      · rintro ⟨-, hall⟩ x hx
        refine hall x.1 x.2 ?_
        rw [← lookup_known_collapse hes hfind hplain]
        exact (mem_iff_lookup hnodup).mp hx
  · rintro room d v t ⟨hplain, hd⟩ hv ht
    cases Draft.denotes_of_value hv with
    | scalar hs =>
      rw [table_of_not_object rfl (by simp)] at ht
      exact absurd ht not_refuse
    | array => exact absurd hplain.1 (by simp [Draft.isArray])
    | object hes =>
      have hnodup := nodup_known hes hfind hplain
      rw [table_object] at ht
      have hgives := (ofMembers_accepts hread hes (hunder hd) hnodup (by simp)).2 t ht
      have hkeys := map_eq_of_forall₂ (hgives.imp fun x y hxy => hxy.1.symm)
      refine ⟨hkeys ▸ hnodup, fun k => ?_⟩
      rw [← lookup_known_collapse hes hfind hplain]
      exact rel_lookup hgives k

end Table

/-! The fields of a record are taken in one by one. -/

section Fold

variable {σ γ : Type} {take : σ → α → σ} {get : σ → γ} {t : List (κ × α)}
  (hnodup : (t.map (·.1)).Nodup)

include hnodup

/-- What only one field sets is as this field says, or as before if the field is not there. -/
lemma foldl_lookup (hother : ∀ x ∈ t, x.1 ≠ k → ∀ s, get (take s x.2) = get s) (s : σ) :
    t.lookup k = none ∧ get (t.foldl (fun s x => take s x.2) s) = get s ∨
      ∃ a s', t.lookup k = some a ∧ get (t.foldl (fun s x => take s x.2) s) = get (take s' a) := by
  induction t generalizing s with
  | nil => exact .inl ⟨rfl, rfl⟩
  | cons x t ih =>
    obtain ⟨hx, ht⟩ := List.nodup_cons.mp hnodup
    obtain ⟨hget, hlater⟩ := List.forall_mem_cons.mp hother
    rw [List.foldl_cons, List.lookup_cons]
    rcases ih ht hlater (take s x.2) with ⟨hnone, heq⟩ | ⟨a, s', hsome, heq⟩
    · by_cases hk : k = x.1
      · exact .inr ⟨x.2, s, by simp [hk], heq⟩
      · exact .inl ⟨by rw [beq_false_of_ne hk, hnone], heq.trans (hget (Ne.symm hk) s)⟩
    · have hk : k ≠ x.1 := by
        rintro rfl
        exact hx (List.mem_map.mpr ⟨(x.1, a), (mem_iff_lookup ht).mpr hsome, rfl⟩)
      exact .inr ⟨a, s', by rw [beq_false_of_ne hk, hsome], heq⟩

/-- The same where a value tells which fields there are. -/
lemma foldl_rel {v : Value} {F : Fields κ α}
    (hrel : ∀ k, Option.Rel (R k) (v.member? (F.name k)) (t.lookup k))
    (hother : ∀ j w a, j ≠ k → R j w a → ∀ s, get (take s a) = get s) (s : σ) :
    v.member? (F.name k) = none ∧ get (t.foldl (fun s x => take s x.2) s) = get s ∨
      ∃ w a s', v.member? (F.name k) = some w ∧ R k w a ∧
        get (t.foldl (fun s x => take s x.2) s) = get (take s' a) := by
  have hothers : ∀ x ∈ t, x.1 ≠ k → ∀ s, get (take s x.2) = get s := by
    intro x hx hne
    have hlookup := (mem_iff_lookup hnodup).mp hx
    rcases rel_cases (hrel x.1) with ⟨-, hnone⟩ | ⟨w, a, -, hsome, hR⟩
    · rw [hnone] at hlookup
      cases hlookup
    · rw [hsome] at hlookup
      obtain rfl := Option.some.inj hlookup
      exact hother x.1 w x.2 hne hR
  rcases foldl_lookup hnodup hothers s with ⟨hlookup, heq⟩ | ⟨a, s', hlookup, heq⟩ <;>
    rcases rel_cases (hrel k) with ⟨hv, ht⟩ | ⟨w, b, hv, ht, hR⟩ <;> rw [ht] at hlookup
  · exact .inl ⟨hv, heq⟩
  · cases hlookup
  · cases hlookup
  · obtain rfl := Option.some.inj hlookup
    exact .inr ⟨w, b, s', hv, hR, heq⟩

end Fold

end Records

end Storyboard.Json
