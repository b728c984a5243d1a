import Storyboard.Proofs.Reference

/-!
# Scanning for references

The references of a text can be found in one pass that jumps from dollar sign to dollar sign, reads
a name behind each, and goes on behind the name, or right behind the sign where it stands for
itself. The pass comes to an end and finds the names to which the text refers, all of them and
nothing else: no sign takes a later reference away, and a character beyond ASCII ends a name.
-/

namespace Storyboard.Reference

variable {s name r : List Char} {c : Char} {found : List (List Char)}

/-! ### Reading one reference -/

/-- Read a reference at the start of a text. Gives its name and what stands behind it. -/
def readReference : List Char → Option (List Char × List Char)
  | '$' :: c :: s =>
    if c.isAlpha || c == '_' then some (c :: s.takeWhile isNameChar, s.dropWhile isNameChar)
    else none
  | _ => none

/-- The ASCII letters, by their numbers. -/
lemma isAlpha_iff : c.isAlpha = true ↔
    (65 ≤ c.toNat ∧ c.toNat ≤ 90) ∨ (97 ≤ c.toNat ∧ c.toNat ≤ 122) := by
  have hdef : c.isAlpha = (decide ('A'.val ≤ c.val ∧ c.val ≤ 'Z'.val) ||
      (decide ('a'.val ≤ c.val) && decide (c.val ≤ 'z'.val))) := rfl
  simp only [hdef, Bool.or_eq_true, Bool.and_eq_true, decide_eq_true_eq, UInt32.le_iff_toNat_le]
  exact Iff.rfl

/-- The ASCII digits, by their numbers. -/
lemma isDigit_iff : c.isDigit = true ↔ 48 ≤ c.toNat ∧ c.toNat ≤ 57 :=
  Char.isDigit_iff_toNat

/-- A name starts with a letter or an underscore. -/
lemma isNameStart_eq (c : Char) : isNameStart c = (c.isAlpha || c == '_') := by
  rw [isNameStart, isNameChar, Char.isAlphanum]
  cases hdigit : c.isDigit with
  | false => simp
  | true =>
    have hnumber := isDigit_iff.mp hdigit
    have halpha : c.isAlpha = false := by
      rw [Bool.eq_false_iff, Ne, isAlpha_iff]
      omega
    have hunderscore : c ≠ '_' := by
      rintro rfl
      exact absurd hdigit (by decide)
    simp [halpha, hunderscore]

lemma readReference_eq_none (h : nameAt s = none) : readReference ('$' :: s) = none := by
  cases s with
  | nil => rfl
  | cons c s => rw [readReference, ← isNameStart_eq, nameAt_eq_none.mp h c rfl]; rfl

lemma readReference_eq_some (h : nameAt (name ++ r) = some name) :
    readReference ('$' :: (name ++ r)) = some (name, r) := by
  obtain ⟨⟨c, cs, rfl, hc⟩, -⟩ := isName_of_nameAt h
  have htake := takeWhile_of_nameAt h
  have hsplit := List.takeWhile_append_dropWhile (p := isNameChar) (l := cs ++ r)
  rw [List.cons_append, List.takeWhile_cons_of_pos (Bool.and_eq_true_iff.mp hc).1,
    List.cons.injEq] at htake
  rw [htake.2, List.append_cancel_left_eq] at hsplit
  rw [List.cons_append, readReference, ← isNameStart_eq, if_pos hc, htake.2, hsplit]

/-- What is left behind a reference is shorter. -/
lemma length_of_readReference (h : readReference s = some (name, r)) : r.length < s.length := by
  unfold readReference at h
  split at h
  · rename_i c s
    split at h
    · obtain ⟨-, rfl⟩ := Prod.mk.inj (Option.some.inj h)
      have hle := (List.dropWhile_suffix (l := s) isNameChar).length_le
      simp only [List.length_cons]
      omega
    · cases h
  · cases h

/-! ### One pass -/

/-- The names of a text after those that were found before: jump to the next dollar sign, read a
reference there, and go on behind it, or behind the sign if there is none. -/
def collect (found : List (List Char)) (s : List Char) : List (List Char) :=
  match _hsign : s.dropWhile (· ≠ '$') with
  | [] => found
  | sign :: behind =>
    match _hname : readReference (sign :: behind) with
    | some (name, rest) => collect (if name ∈ found then found else found ++ [name]) rest
    | none => collect found behind
termination_by s.length
decreasing_by
  · have hle := (List.dropWhile_suffix (l := s) (· ≠ '$')).length_le
    have hlt := length_of_readReference _hname
    rw [_hsign] at hle
    omega
  · have hle := (List.dropWhile_suffix (l := s) (· ≠ '$')).length_le
    rw [_hsign] at hle
    exact hle

lemma collect_def (found : List (List Char)) (s : List Char) :
    collect found s = match s.dropWhile (· ≠ '$') with
      | [] => found
      | sign :: behind =>
        match readReference (sign :: behind) with
        | some (name, rest) => collect (if name ∈ found then found else found ++ [name]) rest
        | none => collect found behind := by
  rw [collect]
  split
  · rename_i hsign
    simp only [hsign]
  · rename_i hsign
    split
    · rename_i hname
      simp only [hsign, hname]
    · rename_i hname
      simp only [hsign, hname]

@[simp] lemma collect_nil : collect found [] = found := by
  rw [collect_def]
  rfl

lemma collect_of_ne (h : c ≠ '$') : collect found (c :: s) = collect found s := by
  rw [collect_def, collect_def found s, List.dropWhile_cons_of_pos (by simpa using h)]

lemma collect_dollar (h : nameAt s = none) : collect found ('$' :: s) = collect found s := by
  rw [collect_def, List.dropWhile_cons_of_neg (by simp)]
  simp only [readReference_eq_none h]

lemma collect_reference (h : nameAt (name ++ r) = some name) :
    collect found ('$' :: (name ++ r))
      = collect (if name ∈ found then found else found ++ [name]) r := by
  rw [collect_def, List.dropWhile_cons_of_neg (by simp)]
  simp only [readReference_eq_some h]

/-- One pass finds the names that were not found before, each once. -/
theorem collect_eq (found : List (List Char)) (s : List Char) :
    collect found s = found ++ fresh found s := by
  induction s using reading generalizing found with
  | nil => simp [fresh, scan]
  | plain c s hc ih => rw [collect_of_ne hc, ih, fresh, fresh, scan_of_ne hc]
  | dollar s hs ih => rw [collect_dollar hs, ih, fresh, fresh, scan_of_nameless hs]
  | reference name r hname ih =>
    rw [collect_reference hname, ih]
    by_cases hfound : name ∈ found
    · rw [if_pos hfound, fresh_of_mem hname hfound]
    · have hsame : ∀ n, n ∈ found ++ [name] ↔ n ∈ name :: found := by simp [or_comm]
      have horder : fresh (found ++ [name]) r = fresh (name :: found) r := by
        simp only [fresh, hsame]
      rw [if_neg hfound, fresh_of_notMem hname hfound, horder, List.append_assoc,
        List.singleton_append]

/-! ### What ends a name -/

/-- All characters of a name are ASCII. -/
lemma toNat_of_isNameChar (h : isNameChar c = true) : c.toNat < 128 := by
  rw [isNameChar, Bool.or_eq_true, beq_iff_eq, Char.isAlphanum, Bool.or_eq_true, isAlpha_iff,
    isDigit_iff] at h
  rcases h with h | rfl
  · omega
  · decide

/-- A name is read up to the next character that no name has. -/
lemma nameAt_append (h : isNameChar c = false) (s r : List Char) :
    nameAt (s ++ c :: r) = nameAt s := by
  have htake : (s ++ c :: r).takeWhile isNameChar = s.takeWhile isNameChar := by
    rw [List.takeWhile_append, List.takeWhile_cons_of_neg (by simp [h]), List.append_nil]
    split
    · rename_i hall
      exact ((List.takeWhile_prefix isNameChar).eq_of_length hall).symm
    · rfl
  rw [nameAt, nameAt, htake]

/-- Before a character that no name has, a text refers to what it refers to by itself. -/
lemma scan_append_cons (h : isNameChar c = false) (s r : List Char) :
    scan (s ++ c :: r) = scan s ++ scan (c :: r) := by
  induction s with
  | nil => rfl
  | cons d s ih =>
    rw [List.cons_append, scan_cons, scan_cons, ih, nameAt_append h, List.append_assoc]

/-! ### Names as texts -/

variable {text after : String}

/-- A character that no name has, and with which no reference starts, keeps the references before
it and those behind it apart. -/
lemma mem_names_append (hc : isNameChar c = false)
    (hscan : scan (c :: after.toList) = scan after.toList) (name : String) :
    name ∈ names (text ++ String.singleton c ++ after) ↔
      name ∈ names text ∨ name ∈ names after := by
  simp only [mem_names, Refers, ← mem_scan, String.toList_append, String.toList_singleton,
    List.append_assoc, List.singleton_append, scan_append_cons hc, hscan, List.mem_append]

/-- One pass over a text finds exactly the names to which it refers, each once and in the order of
their first appearance. A dollar sign that starts no reference and a character beyond ASCII take
none away, neither before them nor behind them, and add none. -/
theorem names_exact (text : String) :
    (collect [] text.toList).map String.ofList = names text ∧
      (names text).Nodup ∧
      ((names text).Pairwise fun a b => Before text.toList a.toList b.toList) ∧
      (∀ name, name ∈ names text ↔ Refers text name) ∧
      (∀ after name, nameAt after.toList = none →
        (name ∈ names (text ++ String.singleton '$' ++ after) ↔
          name ∈ names text ∨ name ∈ names after)) ∧
      ∀ c after name, 128 ≤ Char.toNat c →
        (name ∈ names (text ++ String.singleton c ++ after) ↔
          name ∈ names text ∨ name ∈ names after) := by
  have horder := pairwise_names text
  refine ⟨?_, ?_, horder, fun name => mem_names, ?_, ?_⟩
  · rw [collect_eq, List.nil_append, fresh, names]
    simp
  · refine horder.imp ?_
    intro a b h heq
    exact h.ne (congrArg String.toList heq)
  · intro after name h
    exact mem_names_append (by decide) (scan_of_nameless h) name
  · intro c after name h
    have hchar : isNameChar c = false := by
      by_contra hname
      have hlt := toNat_of_isNameChar (Bool.not_eq_false _ ▸ hname)
      omega
    have hdollar : c ≠ '$' := by
      rintro rfl
      exact absurd h (by decide)
    exact mem_names_append hchar (scan_of_ne hdollar) name

/-- Two dollar signs in a row, a number, a name that comes again, and a name that an accent cuts
short. -/
theorem names_exact_accent :
    let text := "$$b and $a, $b again, $1 is none, $caf"
    (collect [] text.toList).map String.ofList = ["b", "a", "caf"] ∧
      nameAt "5, $_ok".toList = none ∧ "_ok" ∈ names (text ++ String.singleton '$' ++ "5, $_ok") ∧
      128 ≤ 'é'.toNat ∧ "caf" ∈ names (text ++ String.singleton 'é' ++ "s") := by
  intro text
  obtain ⟨hcollect, -, -, -, hdollar, haccent⟩ := names_exact text
  have hnone : nameAt "5, $_ok".toList = none := by decide +kernel
  have hnames : names text = ["b", "a", "caf"] := by decide +kernel
  have hlater : "_ok" ∈ names "5, $_ok" := by decide +kernel
  have hbefore : "caf" ∈ names text := by simp [hnames]
  exact ⟨hcollect.trans hnames, hnone, (hdollar _ _ hnone).mpr (.inr hlater), by decide,
    (haccent _ _ _ (by decide)).mpr (.inl hbefore)⟩

end Storyboard.Reference
