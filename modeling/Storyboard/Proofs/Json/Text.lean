import Mathlib.Tactic.Common
import Mathlib.Tactic.IntervalCases
import Storyboard.Json.Draft

/-!
# The tokens of written values

The text of a value is cut into the tokens of the value, in either layout and whatever follows.
Strings and integers are read back as they are, and so is every value whose numbers are.
-/

namespace Storyboard.Json

open Text

/-! ### Digits -/

lemma digitsOf_isDigit {n : Nat} {c : Char} (h : c ∈ digitsOf n) : c.isDigit = true :=
  Nat.isDigit_of_mem_toDigits (by decide) (by decide) h

lemma digitsOf_ne_nil (n : Nat) : digitsOf n ≠ [] :=
  Nat.toDigits_ne_nil

/-- A number does not begin with a zero, unless it is zero. -/
lemma digitsOf_ne_zero_cons (n : Nat) (c : Char) (cs : List Char) :
    digitsOf n ≠ '0' :: c :: cs := by
  have key : ∀ n, 0 < n → ∀ cs, digitsOf n ≠ '0' :: cs := by
    intro n
    induction n using Nat.strongRecOn with
    | ind n ih =>
      intro hn cs
      rw [digitsOf, Nat.toDigits_eq_if (by decide)]
      split
      · rename_i hlt
        interval_cases n <;> simp [Nat.digitChar]
      · have hq := ih (n / 10) (by omega) (by omega)
        cases h : Nat.toDigits 10 (n / 10) with
        | nil => exact absurd h (digitsOf_ne_nil _)
        | cons d ds =>
          intro heq
          simp only [List.cons_append, List.cons.injEq] at heq
          exact hq ds (heq.1 ▸ h)
  rcases Nat.eq_zero_or_pos n with rfl | hn
  · simp [digitsOf]
  · exact key n hn _

/-- What may stand after a number: nothing that could belong to it. -/
def Delimited : List Char → Prop
  | [] => True
  | c :: _ => c.isDigit = false ∧ c ≠ '.' ∧ c ≠ 'e' ∧ c ≠ 'E'

lemma spanDigits_of_delimited {ds rest : List Char} (hd : ∀ c ∈ ds, c.isDigit = true)
    (hr : Delimited rest) : spanDigits (ds ++ rest) = (ds, rest) := by
  refine spanDigits_of_digits hd fun c hc => ?_
  cases rest with
  | nil => cases hc
  | cons d rest =>
    obtain rfl := Option.some.inj hc
    exact hr.1

/-! ### Integers -/

/-- A number reads back from what is written for it. -/
def Number.ReadsBack (n : Number) : Prop :=
  ∀ rest, Delimited rest → tokens (n.chars ++ rest) = .scalar (.number (some n)) :: tokens rest

lemma numberToken_digitsOf (negative : Bool) (n : Nat) {rest : List Char} (hr : Delimited rest) :
    numberToken negative (digitsOf n ++ rest)
      = (.scalar (.number (integerNumber negative (digitsOf n))), rest) := by
  have hspan : spanDigits (digitsOf n ++ rest) = (digitsOf n, rest) :=
    spanDigits_of_delimited (fun c hc => digitsOf_isDigit hc) hr
  unfold numberToken
  rw [hspan]
  split
  · rename_i h
    simp [digitsOf_ne_nil] at h
  · rename_i c cs _ h
    simp only [Prod.mk.injEq] at h
    exact absurd h.1 (digitsOf_ne_zero_cons n _ _)
  · rename_i r _ _ h
    simp only [Prod.mk.injEq] at h
    exact absurd rfl (h.2 ▸ hr).2.1
  · rename_i r _ _ h
    simp only [Prod.mk.injEq] at h
    exact absurd rfl (h.2 ▸ hr).2.2.1
  · rename_i r _ _ h
    simp only [Prod.mk.injEq] at h
    exact absurd rfl (h.2 ▸ hr).2.2.2
  · rename_i h
    simp only [Prod.mk.injEq] at h
    rw [h.1, h.2]

lemma isSpace_of_isDigit {c : Char} (h : c.isDigit = true) : isSpace c = false := by
  by_contra hc
  simp only [isSpace, Bool.not_eq_false, Bool.or_eq_true, beq_iff_eq, or_assoc] at hc
  rcases hc with rfl | rfl | rfl | rfl <;> simp [Char.isDigit] at h

lemma tokens_cons {c : Char} (h : isSpace c = false) (s : List Char) :
    tokens (c :: s) = (lexeme c s).1 :: tokens (lexeme c s).2 := by
  rw [tokens]
  simp [h]

lemma lexeme_of_isDigit {c : Char} (h : c.isDigit = true) (s : List Char) :
    lexeme c s = numberToken false (c :: s) := by
  unfold lexeme
  split <;> first | exact absurd h (by decide) | exact if_pos h

lemma integerNumber_digitsOf {i : Int} (h : fits64 i = true) :
    integerNumber (i < 0) (digitsOf i.natAbs) = some (.int i) := by
  have hi : (if decide (i < 0) then -(i.natAbs : Int) else (i.natAbs : Int)) = i := by
    split
    · rename_i hneg
      have := of_decide_eq_true hneg
      omega
    · rename_i hneg
      have := of_decide_eq_false (Bool.not_eq_true _ ▸ hneg)
      omega
  have hz : (decide (i < 0) && decide (i.natAbs = 0)) = false := by
    simp only [Bool.and_eq_false_iff, decide_eq_false_iff_not]
    omega
  simp only [integerNumber, ofDigits_digitsOf, hi, hz, h, Bool.not_false, Bool.and_true, if_true]

theorem readsBack_int {i : Int} (h : fits64 i = true) : (Number.int i).ReadsBack := by
  intro rest hr
  have hnum := integerNumber_digitsOf h
  by_cases hneg : i < 0
  · simp only [hneg, decide_true] at hnum
    have hlex := numberToken_digitsOf true i.natAbs hr
    rw [Number.chars, integerText, if_pos hneg, List.cons_append, tokens_cons (by decide)]
    simp only [lexeme, hlex, hnum]
  · simp only [hneg, decide_false] at hnum
    have hlex := numberToken_digitsOf false i.natAbs hr
    rw [Number.chars, integerText, if_neg hneg]
    cases hd : digitsOf i.natAbs with
    | nil => exact absurd hd (digitsOf_ne_nil _)
    | cons c cs =>
      have hc : c.isDigit = true := digitsOf_isDigit (hd ▸ List.mem_cons_self)
      rw [List.cons_append, tokens_cons (isSpace_of_isDigit hc), lexeme_of_isDigit hc]
      rw [hd, List.cons_append] at hlex
      rw [hlex, ← hd, hnum]

/-! ### Decimals -/

lemma numberToken_places (negative : Bool) {whole places rest : List Char}
    (hne : whole ≠ []) (hz : whole.length = 1 ∨ whole.head? ≠ some '0')
    (hw : ∀ c ∈ whole, c.isDigit = true) (hne' : places ≠ [])
    (hp : ∀ c ∈ places, c.isDigit = true) (hr : Delimited rest) :
    numberToken negative (whole ++ '.' :: (places ++ rest))
      = (.scalar (.number (floatNumber negative whole places 0)), rest) := by
  have hspan :
      spanDigits (whole ++ '.' :: (places ++ rest)) = (whole, '.' :: (places ++ rest)) :=
    spanDigits_of_digits hw (by rintro c ⟨⟩; decide)
  have hspan' := spanDigits_of_delimited hp hr
  unfold numberToken
  rw [hspan]
  split
  · rename_i h
    exact absurd (congrArg Prod.fst h) hne
  · rename_i c cs r h
    obtain rfl : whole = '0' :: c :: cs := congrArg Prod.fst h
    simp at hz
  · rename_i r _ _ h
    simp only [Prod.mk.injEq, List.cons.injEq, true_and] at h
    obtain ⟨rfl, rfl⟩ := h
    rw [hspan']
    split
    · rename_i h
      exact absurd (congrArg Prod.fst h) hne'
    · rename_i h
      obtain ⟨rfl, rfl⟩ := Prod.mk.inj h
      exact absurd rfl hr.2.2.1
    · rename_i h
      obtain ⟨rfl, rfl⟩ := Prod.mk.inj h
      exact absurd rfl hr.2.2.2
    · rename_i h
      obtain ⟨rfl, rfl⟩ := Prod.mk.inj h
      rfl
  · rename_i h
    simp at h
  · rename_i h
    simp at h
  · rename_i hdot _ _ h
    exact absurd (Prod.mk.inj h).2 (fun h' => hdot _ h'.symm)

/-! ### Strings -/

/-- What is read for one character of a written string. -/
def pieceOf (c : Char) : Piece :=
  match c with
  | '"' | '\\' | '\n' | '\r' | '\t' | '\x08' | '\x0c' => .char c
  | c => if c.toNat < 0x20 then .unit c.toNat else .char c

lemma unit?_hexText {n : Nat} (h : n < 0x20) (r : List Char) :
    unit? (hexText 4 n ++ r) = .ok (n, r) := by
  interval_cases n <;> rfl

lemma scanString_escapedChar (c : Char) (r : List Char) :
    scanString (escapedChar c ++ r) = (pieceOf c :: (scanString r).1, (scanString r).2) := by
  unfold escapedChar pieceOf
  split
  · simp [scanString, unescape?]
  · simp [scanString, unescape?]
  · simp [scanString, unescape?]
  · simp [scanString, unescape?]
  · simp [scanString, unescape?]
  · simp [scanString, unescape?]
  · simp [scanString, unescape?]
  · rename_i h₁ h₂ h₃ h₄ h₅ h₆ h₇
    by_cases h : c.toNat < 0x20
    · simp only [List.cons_append, if_pos h]
      rw [scanString]
      split
      · rename_i n r' hr
        obtain ⟨rfl, rfl⟩ : n = c.toNat ∧ r' = r := by
          simpa [unit?_hexText h, eq_comm] using hr
        rfl
      · rename_i f hr
        simp [unit?_hexText h] at hr
    · simp only [if_neg h]
      rw [List.singleton_append, scanString]
      · simp [h]
      · exact h₁
      · exact fun h _ => h₂ h
      · exact fun _ h _ => h₂ h
      · exact fun _ _ h _ => h₂ h

lemma scanString_escaped (cs r : List Char) :
    scanString (cs.flatMap escapedChar ++ '"' :: r) = (cs.map pieceOf, .closed r) := by
  induction cs with
  | nil => simp [scanString]
  | cons c cs ih =>
    rw [List.flatMap_cons, List.append_assoc, scanString_escapedChar, ih]
    rfl

lemma joinPieces_unit {n : Nat} (h : n < 0x20) (ps : List Piece) :
    joinPieces (.unit n :: ps) = (joinPieces ps).map (Char.ofNat n :: ·) := by
  have hlow : isLowSurrogate n = false := by
    simp only [isLowSurrogate, Bool.and_eq_false_iff, decide_eq_false_iff_not]
    omega
  have hhigh : isHighSurrogate n = false := by
    simp only [isHighSurrogate, Bool.and_eq_false_iff, decide_eq_false_iff_not]
    omega
  rw [joinPieces.eq_def]
  simp only [hlow, hhigh, Bool.false_eq_true, if_false]

lemma joinPieces_pieceOf (c : Char) (ps : List Piece) :
    joinPieces (pieceOf c :: ps) = (joinPieces ps).map (c :: ·) := by
  unfold pieceOf
  split <;> try rfl
  split
  · rename_i h
    rw [joinPieces_unit h, Char.ofNat_toNat]
  · rfl

lemma joinPieces_map_pieceOf (cs : List Char) : joinPieces (cs.map pieceOf) = some cs := by
  induction cs with
  | nil => rfl
  | cons c cs ih => rw [List.map_cons, joinPieces_pieceOf, ih, Option.map_some]

/-- A written string is one token. -/
lemma tokens_stringChars (s : String) (rest : List Char) :
    tokens (stringChars s ++ rest) = .scalar (.string (some s)) :: tokens rest := by
  simp only [stringChars, List.cons_append, List.append_assoc]
  rw [tokens_cons (by decide)]
  simp [lexeme, stringToken, scanString_escaped, joinPieces_map_pieceOf]

/-! ### Values -/

mutual

/-- The tokens of a value. -/
def Value.tokens : Value → List Token
  | .null => [.scalar .null]
  | .bool b => [.scalar (.bool b)]
  | .number n => [.scalar (.number (some n))]
  | .string s => [.scalar (.string (some s))]
  | .array [] => [.openArray, .closeArray]
  | .array (v :: vs) => .openArray :: v.tokens ++ itemTokens vs ++ [.closeArray]
  | .object [] => [.openObject, .closeObject]
  | .object ((k, v) :: ms) =>
    .openObject :: .scalar (.string (some k)) :: .colon :: v.tokens ++ memberTokens ms ++
      [.closeObject]

/-- The tokens of the items after the first one. -/
def itemTokens : List Value → List Token
  | [] => []
  | v :: vs => .comma :: v.tokens ++ itemTokens vs

/-- The tokens of the members after the first one. -/
def memberTokens : List (String × Value) → List Token
  | [] => []
  | (k, v) :: ms =>
    .comma :: .scalar (.string (some k)) :: .colon :: v.tokens ++ memberTokens ms

end

mutual

/-- Every number in the value reads back. -/
def Value.Readable : Value → Prop
  | .number n => n.ReadsBack
  | .array vs => ItemsReadable vs
  | .object ms => MembersReadable ms
  | .null | .bool _ | .string _ => True

def ItemsReadable : List Value → Prop
  | [] => True
  | v :: vs => v.Readable ∧ ItemsReadable vs

def MembersReadable : List (String × Value) → Prop
  | [] => True
  | (_, v) :: ms => v.Readable ∧ MembersReadable ms

end

section Layout

variable (l : Layout)

lemma tokens_replicate_space (n : Nat) (rest : List Char) :
    tokens (List.replicate n ' ' ++ rest) = tokens rest := by
  induction n with
  | zero => rfl
  | succ n ih =>
    rw [List.replicate_succ, List.cons_append, tokens]
    simpa [isSpace] using ih

@[simp] lemma tokens_line (level : Nat) (rest : List Char) :
    tokens (l.line level ++ rest) = tokens rest := by
  cases l with
  | compact => rfl
  | pretty =>
    rw [Layout.line, List.cons_append, tokens]
    simpa [isSpace] using tokens_replicate_space _ _

@[simp] lemma tokens_colon (rest : List Char) :
    tokens (l.colon ++ rest) = .colon :: tokens rest := by
  cases l with
  | compact =>
    rw [Layout.colon, List.singleton_append, tokens_cons (by decide)]
    rfl
  | pretty =>
    rw [Layout.colon, List.cons_append, tokens_cons (by decide)]
    simp only [lexeme]
    exact congrArg _ (tokens_replicate_space 1 rest)

lemma delimited_line (level : Nat) {rest : List Char} (h : Delimited rest) :
    Delimited (l.line level ++ rest) := by
  cases l with
  | compact => exact h
  | pretty => exact ⟨by decide, by decide, by decide, by decide⟩

lemma delimited_itemChars (level : Nat) (vs : List Value) {rest : List Char} (h : Delimited rest) :
    Delimited (itemChars l level vs ++ rest) := by
  cases vs with
  | nil => simpa [itemChars] using h
  | cons v vs =>
    simp only [itemChars, List.cons_append]
    exact ⟨by decide, by decide, by decide, by decide⟩

lemma delimited_memberChars (level : Nat) (ms : List (String × Value)) {rest : List Char}
    (h : Delimited rest) : Delimited (memberChars l level ms ++ rest) := by
  cases ms with
  | nil => simpa [memberChars] using h
  | cons m ms =>
    simp only [memberChars, List.cons_append]
    exact ⟨by decide, by decide, by decide, by decide⟩

lemma tokens_mark {c : Char} {t : Token} (hc : isSpace c = false)
    (h : ∀ s, lexeme c s = (t, s)) (rest : List Char) : tokens (c :: rest) = t :: tokens rest := by
  rw [tokens_cons hc, h]

lemma delimited_mark {c : Char} (rest : List Char)
    (h : c.isDigit = false ∧ c ≠ '.' ∧ c ≠ 'e' ∧ c ≠ 'E') : Delimited (c :: rest) :=
  h

mutual

/-- The text of a readable value is cut into its tokens. -/
theorem tokens_chars (v : Value) (level : Nat) (rest : List Char) (hv : v.Readable)
    (hr : Delimited rest) : tokens (v.chars l level ++ rest) = v.tokens ++ tokens rest := by
  match v with
  | .null => exact tokens_cons (by decide) _
  | .bool true => exact tokens_cons (by decide) _
  | .bool false => exact tokens_cons (by decide) _
  | .number n => exact hv rest hr
  | .string s => exact tokens_stringChars s rest
  | .array [] =>
    rw [Value.chars, List.cons_append, tokens_mark (by decide) fun _ => rfl]
    exact congrArg _ (tokens_mark (by decide) (fun _ => rfl) rest)
  | .array (v :: vs) =>
    obtain ⟨hv, hvs⟩ := hv
    have hclose : tokens (']' :: rest) = .closeArray :: tokens rest :=
      tokens_mark (by decide) (fun _ => rfl) rest
    have hend : Delimited (l.line level ++ ']' :: rest) :=
      delimited_line l _ (delimited_mark rest (by decide))
    simp only [Value.chars, List.cons_append, List.append_assoc, List.nil_append]
    rw [tokens_mark (by decide) fun _ => rfl, tokens_line,
      tokens_chars v (level + 1) _ hv (delimited_itemChars l _ _ hend),
      tokens_itemChars vs (level + 1) _ hvs hend, tokens_line, hclose]
    simp [Value.tokens]
  | .object [] =>
    rw [Value.chars, List.cons_append, tokens_mark (by decide) fun _ => rfl]
    exact congrArg _ (tokens_mark (by decide) (fun _ => rfl) rest)
  | .object ((k, v) :: ms) =>
    obtain ⟨hv, hms⟩ := hv
    have hclose : tokens ('\x7d' :: rest) = .closeObject :: tokens rest :=
      tokens_mark (by decide) (fun _ => rfl) rest
    have hend : Delimited (l.line level ++ '\x7d' :: rest) :=
      delimited_line l _ (delimited_mark rest (by decide))
    simp only [Value.chars, List.cons_append, List.append_assoc, List.nil_append]
    rw [tokens_mark (by decide) fun _ => rfl, tokens_line, tokens_stringChars, tokens_colon,
      tokens_chars v (level + 1) _ hv (delimited_memberChars l _ _ hend),
      tokens_memberChars ms (level + 1) _ hms hend, tokens_line, hclose]
    simp [Value.tokens]

theorem tokens_itemChars (vs : List Value) (level : Nat) (rest : List Char)
    (hv : ItemsReadable vs) (hr : Delimited rest) :
    tokens (itemChars l level vs ++ rest) = itemTokens vs ++ tokens rest := by
  match vs with
  | [] => rfl
  | v :: vs =>
    obtain ⟨hv, hvs⟩ := hv
    simp only [itemChars, itemTokens, List.cons_append, List.append_assoc]
    rw [tokens_mark (by decide) fun _ => rfl, tokens_line,
      tokens_chars v level _ hv (delimited_itemChars l _ _ hr), tokens_itemChars vs level _ hvs hr]

theorem tokens_memberChars (ms : List (String × Value)) (level : Nat) (rest : List Char)
    (hm : MembersReadable ms) (hr : Delimited rest) :
    tokens (memberChars l level ms ++ rest) = memberTokens ms ++ tokens rest := by
  match ms with
  | [] => rfl
  | (k, v) :: ms =>
    obtain ⟨hv, hms⟩ := hm
    simp only [memberChars, memberTokens, List.cons_append, List.append_assoc]
    rw [tokens_mark (by decide) fun _ => rfl, tokens_line, tokens_stringChars, tokens_colon,
      tokens_chars v level _ hv (delimited_memberChars l _ _ hr),
      tokens_memberChars ms level _ hms hr]

end

end Layout

end Storyboard.Json
