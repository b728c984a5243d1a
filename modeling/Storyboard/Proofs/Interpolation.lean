import Mathlib.Data.List.Infix
import Mathlib.Tactic.Common
import Storyboard.Interpolation

/-!
# Filling in all variables at once

A preview should replace the first reference to each name, all at once: values are not read again,
and a longer name is not taken for a shorter one. It is made by replacing one name after the other
in a text that holds values by then, and what is replaced is the first place where the dollar sign
and the name stand, be it a reference or not. So the two differ, and they agree where names, values
and dollar signs are kept apart.
-/

namespace Storyboard

namespace Reference

/-- The characters with which a name starts. -/
def isNameStart (c : Char) : Bool :=
  isNameChar c && !c.isDigit

/-- The text with the first reference to each name replaced by its value, in one pass from left to
right. The names in `seen` were replaced before, and the next `skip` characters belong to a
reference that has just been replaced. -/
def fill (value : List Char → List Char) :
    List (List Char) → Nat → List Char → List Char
  | _, _, [] => []
  | seen, skip + 1, _ :: s => fill value seen skip s
  | seen, 0, c :: s =>
    if c = '$' then
      match nameAt s with
      | some name =>
        if name ∈ seen then c :: fill value seen 0 s
        else value name ++ fill value (name :: seen) name.length s
      | none => c :: fill value seen 0 s
    else c :: fill value seen 0 s

/-- The text with some names replaced one after the other, each at the first place where it stands
after a dollar sign. -/
def fillInTurn (value : List Char → List Char) (names : List (List Char)) (s : List Char) :
    List Char :=
  names.foldl (fun s name => replaceFirst ('$' :: name) (value name) s) s

/-- The text refers to nothing and does not end in a dollar sign, so nothing that follows it makes
it refer to something. -/
def Inert (s : List Char) : Prop :=
  scan s = [] ∧ s.getLast? ≠ some '$'

/-- No dollar sign stands right before a reference. -/
def Spaced (s : List Char) : Prop :=
  ∀ r, '$' :: '$' :: r <:+ s → nameAt r = none

instance (s : List Char) : Decidable (Inert s) :=
  inferInstanceAs (Decidable (_ ∧ _))

lemma spaced_iff {s : List Char} :
    Spaced s ↔ ∀ t ∈ s.tails, t.take 2 = ['$', '$'] → nameAt (t.drop 2) = none := by
  simp only [Spaced, List.mem_tails]
  constructor
  · intro h t ht htake
    rw [← List.take_append_drop 2 t, htake] at ht
    exact h _ ht
  · intro h r hr
    exact h _ hr rfl

instance (s : List Char) : Decidable (Spaced s) :=
  decidable_of_iff _ spaced_iff.symm

variable {value : List Char → List Char} {n name s r v w : List Char} {c : Char}

/-! ### Names -/

lemma nameAt_eq_none : nameAt s = none ↔ ∀ c, s.head? = some c → isNameStart c = false := by
  cases s with
  | nil => simp [nameAt]
  | cons c s =>
    by_cases h : isNameChar c = true
    · by_cases hd : c.isDigit = true <;> simp [nameAt, isNameStart, h, hd]
    · simp [nameAt, isNameStart, h]

lemma nameAt_cons_of_not_start (h : isNameStart c = false) (s : List Char) :
    nameAt (c :: s) = none :=
  nameAt_eq_none.mpr fun _ hd => Option.some.inj hd ▸ h

lemma takeWhile_of_nameAt (h : nameAt s = some name) : s.takeWhile isNameChar = name := by
  unfold nameAt at h
  split at h
  · simp at h
  · rename_i heq
    split at h
    · simp at h
    · exact heq.trans (Option.some.inj h)

/-- A name can be referred to. -/
def IsName (n : List Char) : Prop :=
  (∃ c cs, n = c :: cs ∧ isNameStart c = true) ∧ '$' ∉ n

lemma isName_of_nameAt (h : nameAt s = some name) : IsName name := by
  have htake := takeWhile_of_nameAt h
  constructor
  · cases s with
    | nil => simp [nameAt] at h
    | cons c s =>
      cases hc : isNameStart c with
      | true =>
        obtain ⟨hchar, -⟩ := Bool.and_eq_true_iff.mp hc
        rw [List.takeWhile_cons_of_pos hchar] at htake
        exact ⟨c, _, htake.symm, hc⟩
      | false => simp [nameAt_cons_of_not_start hc] at h
  · intro hmem
    rw [← htake] at hmem
    have hchar := List.all_eq_true.mp (List.all_takeWhile (l := s) (p := isNameChar)) _ hmem
    exact absurd hchar (by decide)

lemma prefix_of_nameAt (h : nameAt s = some name) : name <+: s :=
  takeWhile_of_nameAt h ▸ List.takeWhile_prefix isNameChar

/-- A text is read from left to right: character by character, and a reference as a whole. -/
@[elab_as_elim]
theorem reading {motive : List Char → Prop} (nil : motive [])
    (plain : ∀ c s, c ≠ '$' → motive s → motive (c :: s))
    (dollar : ∀ s, nameAt s = none → motive s → motive ('$' :: s))
    (reference : ∀ name r, nameAt (name ++ r) = some name → motive r →
      motive ('$' :: (name ++ r))) (s : List Char) : motive s := by
  induction h : s.length using Nat.strong_induction_on generalizing s with
  | _ k ih =>
    subst h
    match s with
    | [] => exact nil
    | c :: s =>
      by_cases hc : c = '$'
      · subst hc
        cases hname : nameAt s with
        | none => exact dollar s hname (ih _ (by simp) s rfl)
        | some name =>
          obtain ⟨r, rfl⟩ := prefix_of_nameAt hname
          have hlength : r.length < ('$' :: (name ++ r)).length := by
            simp only [List.length_cons, List.length_append]
            omega
          exact reference name r hname (ih _ hlength r rfl)
      · exact plain c s hc (ih _ (by simp) s rfl)

/-! ### The names of a text -/

lemma scan_of_ne (h : c ≠ '$') : scan (c :: s) = scan s := by
  simp [scan, h]

lemma scan_append (h : '$' ∉ v) (s : List Char) : scan (v ++ s) = scan s := by
  induction v with
  | nil => rfl
  | cons c v ih =>
    obtain ⟨hc, hv⟩ := List.ne_and_not_mem_of_not_mem_cons h
    rw [List.cons_append, scan_of_ne (Ne.symm hc), ih hv]

lemma scan_of_nameless (h : nameAt s = none) : scan ('$' :: s) = scan s := by
  simp [scan, h]

lemma scan_reference (h : nameAt (name ++ r) = some name) :
    scan ('$' :: (name ++ r)) = name :: scan r := by
  simp [scan, h, scan_append (isName_of_nameAt h).2]

lemma isName_of_mem_scan (h : n ∈ scan s) : IsName n := by
  induction s using reading with
  | nil => simp [scan] at h
  | plain c s hc ih => exact ih (scan_of_ne hc ▸ h)
  | dollar s hs ih => exact ih (scan_of_nameless hs ▸ h)
  | reference name r hname ih =>
    rw [scan_reference hname] at h
    rcases List.mem_cons.mp h with rfl | h
    · exact isName_of_nameAt hname
    · exact ih h

/-! ### Replacing a name -/

@[simp] lemma replaceFirst_nil : replaceFirst ('$' :: n) w [] = [] := rfl

lemma replaceFirst_self : replaceFirst ('$' :: n) w ('$' :: (n ++ s)) = w ++ s := by
  simp [replaceFirst]

lemma replaceFirst_of_ne (h : c ≠ '$') :
    replaceFirst ('$' :: n) w (c :: s) = c :: replaceFirst ('$' :: n) w s := by
  simp [replaceFirst, Ne.symm h]

lemma replaceFirst_of_not_start (h : ¬ n <+: s) :
    replaceFirst ('$' :: n) w ('$' :: s) = '$' :: replaceFirst ('$' :: n) w s := by
  simp [replaceFirst, h]

lemma replaceFirst_append (h : '$' ∉ v) :
    replaceFirst ('$' :: n) w (v ++ s) = v ++ replaceFirst ('$' :: n) w s := by
  induction v with
  | nil => rfl
  | cons c v ih =>
    obtain ⟨hc, hv⟩ := List.ne_and_not_mem_of_not_mem_cons h
    rw [List.cons_append, replaceFirst_of_ne (Ne.symm hc), ih hv, List.cons_append]

/-- A name does not stand where none starts. -/
lemma IsName.not_start (hn : IsName n) (h : nameAt s = none) : ¬ n <+: s := by
  obtain ⟨⟨c, cs, rfl, hc⟩, -⟩ := hn
  rintro ⟨r, rfl⟩
  have hstart := nameAt_eq_none.mp h c rfl
  rw [hc] at hstart
  exact absurd hstart (by decide)

/-- What a value holds is not taken for a reference. -/
lemma replaceFirst_inert (hn : IsName n) (hv : Inert v) (s : List Char) :
    replaceFirst ('$' :: n) w (v ++ s) = v ++ replaceFirst ('$' :: n) w s := by
  induction v with
  | nil => rfl
  | cons c v ih =>
    obtain ⟨hscan, hlast⟩ := hv
    by_cases hc : c = '$'
    · subst hc
      cases v with
      | nil => exact absurd rfl hlast
      | cons d v =>
        have hnone : nameAt (d :: v) = none := by
          cases hname : nameAt (d :: v) with
          | none => rfl
          | some name => simp [scan, hname] at hscan
        have hrest : Inert (d :: v) := by
          constructor
          · simpa [scan, hnone] using hscan
          · simpa using hlast
        have hhead : nameAt (d :: v ++ s) = none :=
          nameAt_cons_of_not_start (nameAt_eq_none.mp hnone d rfl) _
        rw [List.cons_append, replaceFirst_of_not_start (hn.not_start hhead), ih hrest]
        rfl
    · have hrest : Inert v := by
        constructor
        · simpa [scan, hc] using hscan
        · cases v with
          | nil => simp
          | cons d v => simpa using hlast
      rw [List.cons_append, replaceFirst_of_ne hc, ih hrest, List.cons_append]

/-! ### Dollar signs without a name -/

lemma Spaced.of_suffix (h : Spaced s) (hr : r <:+ s) : Spaced r :=
  fun t ht => h t (ht.trans hr)

/-- No name starts after the dollar signs at the front. -/
def Quiet (s : List Char) : Prop :=
  nameAt (s.dropWhile (· = '$')) = none

lemma quiet_dollar : Quiet ('$' :: s) ↔ Quiet s := by
  simp [Quiet]

lemma Quiet.nameAt_eq_none (h : Quiet s) : nameAt s = none := by
  cases s with
  | nil => rfl
  | cons c s =>
    by_cases hc : c = '$'
    · subst hc
      exact nameAt_cons_of_not_start (by decide) s
    · simpa [Quiet, hc] using h

lemma Spaced.quiet (hs : Spaced ('$' :: s)) (h : nameAt s = none) : Quiet s := by
  induction s with
  | nil => rfl
  | cons c s ih =>
    by_cases hc : c = '$'
    · subst hc
      have hnext := hs.of_suffix (List.suffix_cons _ _)
      exact quiet_dollar.mpr (ih hnext (hs s List.suffix_rfl))
    · simpa [Quiet, hc] using h

lemma Quiet.replaceFirst (h : Quiet s) (hn : IsName n) :
    Quiet (replaceFirst ('$' :: n) w s) := by
  induction s with
  | nil => exact h
  | cons c s ih =>
    by_cases hc : c = '$'
    · subst hc
      have hs := quiet_dollar.mp h
      rw [replaceFirst_of_not_start (hn.not_start hs.nameAt_eq_none)]
      exact quiet_dollar.mpr (ih hs)
    · have hstart : isNameStart c = false :=
        Reference.nameAt_eq_none.mp h.nameAt_eq_none c rfl
      rw [replaceFirst_of_ne hc]
      simpa [Quiet, hc] using nameAt_cons_of_not_start hstart _

/-! ### Replacing names in turn -/

section InTurn

variable {ns : List (List Char)}

lemma fillInTurn_cons (n : List Char) (s : List Char) :
    fillInTurn value (n :: ns) s = fillInTurn value ns (replaceFirst ('$' :: n) (value n) s) := rfl

@[simp] lemma fillInTurn_nil : fillInTurn value ns [] = [] := by
  induction ns with
  | nil => rfl
  | cons n ns ih => exact ih

lemma fillInTurn_append (h : '$' ∉ v) (s : List Char) :
    fillInTurn value ns (v ++ s) = v ++ fillInTurn value ns s := by
  induction ns generalizing s with
  | nil => rfl
  | cons n ns ih =>
    rw [fillInTurn_cons, replaceFirst_append h, ih, fillInTurn_cons]

lemma fillInTurn_inert (hn : ∀ n ∈ ns, IsName n) (hv : Inert v) (s : List Char) :
    fillInTurn value ns (v ++ s) = v ++ fillInTurn value ns s := by
  induction ns generalizing s with
  | nil => rfl
  | cons n ns ih =>
    obtain ⟨hn, hns⟩ := List.forall_mem_cons.mp hn
    rw [fillInTurn_cons, replaceFirst_inert hn hv, ih hns, fillInTurn_cons]

lemma fillInTurn_quiet (hn : ∀ n ∈ ns, IsName n) (hs : Quiet s) :
    fillInTurn value ns ('$' :: s) = '$' :: fillInTurn value ns s := by
  induction ns generalizing s with
  | nil => rfl
  | cons n ns ih =>
    obtain ⟨hn, hns⟩ := List.forall_mem_cons.mp hn
    have hfirst := replaceFirst_of_not_start (w := value n) (hn.not_start hs.nameAt_eq_none)
    rw [fillInTurn_cons, hfirst, ih hns (hs.replaceFirst hn), fillInTurn_cons]

/-- A reference stays where none of the names is the beginning of its own, or the other way
round. -/
lemma fillInTurn_other (hname : '$' ∉ name)
    (hn : ∀ n ∈ ns, ¬ n <+: name ∧ ¬ name <+: n) (s : List Char) :
    fillInTurn value ns ('$' :: (name ++ s)) = '$' :: (name ++ fillInTurn value ns s) := by
  induction ns generalizing s with
  | nil => rfl
  | cons n ns ih =>
    obtain ⟨⟨h₁, h₂⟩, hns⟩ := List.forall_mem_cons.mp hn
    have hprefix : ¬ n <+: name ++ s := by
      intro h
      rcases List.prefix_or_prefix_of_prefix h (List.prefix_append name s) with h | h
      · exact h₁ h
      · exact h₂ h
    have hfirst := replaceFirst_of_not_start (w := value n) hprefix
    rw [fillInTurn_cons, hfirst, replaceFirst_append hname, ih hns, fillInTurn_cons]

end InTurn

/-! ### One pass -/

variable {seen : List (List Char)}

lemma fill_skip (k : Nat) (s : List Char) : fill value seen k s = fill value seen 0 (s.drop k) := by
  induction k generalizing s with
  | zero => rfl
  | succ k ih =>
    cases s with
    | nil => rfl
    | cons c s => exact ih s

lemma fill_of_ne (h : c ≠ '$') : fill value seen 0 (c :: s) = c :: fill value seen 0 s := by
  simp [fill, h]

lemma fill_of_nameless (h : nameAt s = none) :
    fill value seen 0 ('$' :: s) = '$' :: fill value seen 0 s := by
  simp [fill, h]

lemma fill_append (h : '$' ∉ v) (s : List Char) :
    fill value seen 0 (v ++ s) = v ++ fill value seen 0 s := by
  induction v with
  | nil => rfl
  | cons c v ih =>
    obtain ⟨hc, hv⟩ := List.ne_and_not_mem_of_not_mem_cons h
    rw [List.cons_append, fill_of_ne (Ne.symm hc), ih hv, List.cons_append]

/-! ### The names that are left to replace -/

/-- The names in a text that were not replaced before, each once. -/
def fresh (seen : List (List Char)) (s : List Char) : List (List Char) :=
  ((scan s).filter (· ∉ seen)).eraseDups

lemma mem_fresh : n ∈ fresh seen s ↔ n ∈ scan s ∧ n ∉ seen := by
  simp [fresh]

lemma isName_of_mem_fresh (h : n ∈ fresh seen s) : IsName n :=
  isName_of_mem_scan (mem_fresh.mp h).1

section Name

variable (h : nameAt (name ++ r) = some name)

include h

lemma fresh_of_mem (hseen : name ∈ seen) : fresh seen ('$' :: (name ++ r)) = fresh seen r := by
  simp [fresh, scan_reference h, hseen]

lemma fresh_of_notMem (hseen : name ∉ seen) :
    fresh seen ('$' :: (name ++ r)) = name :: fresh (name :: seen) r := by
  have hfilter : ((scan r).filter (· ∉ seen)).filter (fun n => !n == name)
      = (scan r).filter (· ∉ name :: seen) := by
    rw [List.filter_filter]
    refine List.filter_congr fun n _ => ?_
    by_cases hn : n = name <;> simp [hn]
  simp only [fresh, scan_reference h, List.filter_cons, hseen, not_false_eq_true, decide_true,
    if_true, List.eraseDups_cons, hfilter]

lemma fill_of_mem (hseen : name ∈ seen) :
    fill value seen 0 ('$' :: (name ++ r)) = '$' :: (name ++ fill value seen 0 r) := by
  rw [← fill_append (isName_of_nameAt h).2]
  simp [fill, h, hseen]

lemma fill_of_notMem (hseen : name ∉ seen) :
    fill value seen 0 ('$' :: (name ++ r)) = value name ++ fill value (name :: seen) 0 r := by
  have hskip : fill value (name :: seen) name.length (name ++ r)
      = fill value (name :: seen) 0 r := by
    rw [fill_skip, List.drop_left]
  simp [fill, h, hseen, hskip]

end Name

/-! ### Both ways -/

/-- Of the names in a row, one that was replaced before or stands there again is no beginning of
another one, and no other one is a beginning of it. -/
def Separate (seen ns : List (List Char)) : Prop :=
  ∀ a ∈ ns, a ∈ seen ∨ 1 < ns.count a → ∀ b ∈ ns, a ≠ b → ¬ a <+: b ∧ ¬ b <+: a

instance (seen ns : List (List Char)) : Decidable (Separate seen ns) :=
  inferInstanceAs (Decidable (∀ a ∈ ns, _ → ∀ b ∈ ns, a ≠ b → _))

lemma Separate.tail {ns : List (List Char)} (h : Separate seen (n :: ns)) :
    Separate (n :: seen) ns := by
  intro a ha hagain b hb hab
  refine h a (List.mem_cons_of_mem n ha) ?_ b (List.mem_cons_of_mem n hb) hab
  have hcount : 0 < ns.count a := List.count_pos_iff.mpr ha
  by_cases han : a = n
  · subst han
    right
    rw [List.count_cons_self]
    omega
  · rw [List.count_cons_of_ne (Ne.symm han)]
    exact hagain.imp_left fun h => (List.mem_cons.mp h).resolve_left han

lemma Separate.of_cons {ns : List (List Char)} (h : Separate (n :: seen) ns) : Separate seen ns :=
  fun a ha hagain => h a ha (hagain.imp_left (List.mem_cons_of_mem n))

/-- A reference to a name that was replaced before is not taken for one to a name that is left. -/
lemma Separate.of_mem (h : Separate seen (name :: scan r)) (hseen : name ∈ seen) :
    ∀ n ∈ fresh seen r, ¬ n <+: name ∧ ¬ name <+: n := by
  intro n hn
  obtain ⟨hmem, hnew⟩ := mem_fresh.mp hn
  have hne : name ≠ n := fun heq => hnew (heq ▸ hseen)
  have hapart := h name List.mem_cons_self (.inl hseen) n (List.mem_cons_of_mem _ hmem) hne
  exact hapart.symm

/-- Replacing names in turn gives what one pass gives, where names, values and dollar signs are
kept apart. -/
theorem fillInTurn_fresh (hvalue : ∀ n ∈ scan s, Inert (value n)) (hspaced : Spaced s)
    (hnames : Separate seen (scan s)) :
    fillInTurn value (fresh seen s) s = fill value seen 0 s := by
  induction s using reading generalizing seen with
  | nil => simp [fill]
  | plain c s hc ih =>
    have hscan : scan (c :: s) = scan s := scan_of_ne hc
    have hrest := ih (hscan ▸ hvalue) (hspaced.of_suffix (List.suffix_cons c s)) (hscan ▸ hnames)
    have hfresh : fresh seen (c :: s) = fresh seen s := by rw [fresh, hscan, fresh]
    have hcopy : fillInTurn value (fresh seen s) (c :: s)
        = c :: fillInTurn value (fresh seen s) s :=
      fillInTurn_append (v := [c]) (by simpa using Ne.symm hc) s
    rw [hfresh, hcopy, hrest, fill_of_ne hc]
  | dollar s hs ih =>
    have hscan := scan_of_nameless hs
    have hrest := ih (hscan ▸ hvalue) (hspaced.of_suffix (List.suffix_cons _ s)) (hscan ▸ hnames)
    have hfresh : fresh seen ('$' :: s) = fresh seen s := by rw [fresh, hscan, fresh]
    rw [hfresh, fillInTurn_quiet (fun n => isName_of_mem_fresh) (hspaced.quiet hs), hrest,
      fill_of_nameless hs]
  | reference name r hname ih =>
    have hscan := scan_reference hname
    rw [hscan] at hvalue hnames
    obtain ⟨hinert, hvalue⟩ := List.forall_mem_cons.mp hvalue
    have hrest {seen : List (List Char)} (h : Separate seen (scan r)) :=
      ih hvalue (hspaced.of_suffix ((List.suffix_append name r).trans (List.suffix_cons _ _))) h
    by_cases hseen : name ∈ seen
    · rw [fresh_of_mem hname hseen,
        fillInTurn_other (isName_of_nameAt hname).2 (hnames.of_mem hseen),
        hrest hnames.tail.of_cons, fill_of_mem hname hseen]
    · rw [fresh_of_notMem hname hseen, fillInTurn_cons, replaceFirst_self,
        fillInTurn_inert (fun n => isName_of_mem_fresh) hinert, hrest hnames.tail,
        fill_of_notMem hname hseen]

end Reference

namespace Interpolation

variable {vars : VariableStore} {text : String}

/-- What a name stands for, as characters. -/
def valueOf (vars : VariableStore) (name : List Char) : List Char :=
  (resolve vars (.ofList name)).toList

/-- The text with its variables filled in all at once. -/
def atOnce (vars : VariableStore) (text : String) : String :=
  .ofList (Reference.fill (valueOf vars) [] 0 text.toList)

/-- Names, values and dollar signs are kept apart: a name that is referred to again is no beginning
of another one and begins with no other one, no value refers to a variable or ends in a dollar sign,
and no dollar sign stands right before a reference. -/
structure Apart (vars : VariableStore) (text : String) : Prop where
  names : Reference.Separate [] (Reference.scan text.toList)
  values : ∀ n ∈ Reference.scan text.toList, Reference.Inert (valueOf vars n)
  dollars : Reference.Spaced text.toList

instance (vars : VariableStore) (text : String) : Decidable (Apart vars text) :=
  decidable_of_iff (Reference.Separate [] (Reference.scan text.toList) ∧
      (∀ n ∈ Reference.scan text.toList, Reference.Inert (valueOf vars n)) ∧
      Reference.Spaced text.toList)
    ⟨fun ⟨h₁, h₂, h₃⟩ => ⟨h₁, h₂, h₃⟩, fun h => ⟨h.names, h.values, h.dollars⟩⟩

lemma evaluated_eq_fillInTurn (vars : VariableStore) (text : String) :
    (ofText vars text).evaluated
      = .ofList (Reference.fillInTurn (valueOf vars) (Reference.fresh [] text.toList)
          text.toList) := by
  simp [ofText, Reference.names, Reference.fillInTurn, Reference.fresh, valueOf, List.foldl_map,
    List.filter_eq_self.mpr]

/-- Where names, values and dollar signs are kept apart, a preview is the text with the first
reference to each name replaced and everything else as it was, in one pass from left to right. -/
theorem evaluated_ofText (h : Apart vars text) :
    (ofText vars text).evaluated = atOnce vars text := by
  rw [evaluated_eq_fillInTurn, Reference.fillInTurn_fresh h.values h.dollars h.names, atOnce]

/-- A name and the beginning of it, a name that is referred to again, and prices. -/
theorem evaluated_ofText_prices :
    let vars : VariableStore := ⟨[("user", "Bob"), ("sum", "$20")]⟩
    let text := "Dear $user_name ($user), $5 of $sum, $sum!"
    Apart vars text ∧ (ofText vars text).evaluated = atOnce vars text ∧
      atOnce vars text = "Dear \"\" (Bob), $5 of $20, $sum!" := by
  intro vars text
  have hapart : Apart vars text := by decide +kernel
  exact ⟨hapart, evaluated_ofText hapart, by decide +kernel⟩

/-- A value is read again, a longer name is broken up when it is referred to again, and a dollar
sign makes a reference together with a value. -/
theorem evaluated_ofText_ne_atOnce :
    let value : VariableStore := ⟨[("a", "$b"), ("b", "X")]⟩
    let name : VariableStore := ⟨[("ab", "1"), ("a", "2")]⟩
    let dollar : VariableStore := ⟨[("a", "b"), ("b", "X")]⟩
    (ofText value "$a $b").evaluated = "X $b" ∧ atOnce value "$a $b" = "$b X" ∧
      (ofText name "$ab $ab $a").evaluated = "1 2b $a" ∧ atOnce name "$ab $ab $a" = "1 $ab 2" ∧
      (ofText dollar "$$a $b").evaluated = "X $b" ∧ atOnce dollar "$$a $b" = "$b X" := by
  decide +kernel

end Interpolation

end Storyboard
