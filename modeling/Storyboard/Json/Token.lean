import Storyboard.Json.Value

/-!
# Tokens of a JSON text

A text is first cut into tokens. The cut never fails: where no token can be completed, the last
one says how the text broke off. Some parts of a text are only passed over later, and passing
over asks less of a text than reading does; so strings and numbers say whether they denote
something, and a break says what it means to a reader and what to one that passes over.
-/

namespace Storyboard.Json

open Text

/-- What is wrong with the form of a text. -/
inductive Fault
  /-- The text ends too early. -/
  | truncated
  /-- Something stands where it cannot stand. -/
  | malformed
deriving DecidableEq, Repr

/-- A break in a text, for one who reads what stands there and for one who passes over it. -/
structure Break where
  read : Fault
  skip : Fault
deriving DecidableEq, Repr

namespace Break

/-- A break that means the same to both. -/
def both (f : Fault) : Break :=
  ⟨f, f⟩

/-- A break that a reader takes for the end of the text, if nothing follows. -/
def unfinished (rest : List Char) : Break :=
  if rest = [] then ⟨.truncated, .malformed⟩ else both .malformed

end Break

/-- Values without parts. A number beyond the largest binary number and a string with half a
surrogate pair denote nothing. -/
inductive Scalar
  | null
  | bool (b : Bool)
  | number (n : Option Number)
  | string (s : Option String)
deriving DecidableEq

inductive Token
  | openArray
  | closeArray
  | openObject
  | closeObject
  | comma
  | colon
  | scalar (s : Scalar)
  | broken (inString : Bool) (b : Break)
deriving DecidableEq

/-! ### Strings -/

/-- A part of a string: a character, or a number of 16 bits. -/
inductive Piece
  | char (c : Char)
  | unit (n : Nat)
deriving DecidableEq

/-- How a string ends. -/
inductive Ending
  | closed (rest : List Char)
  | broken (f : Fault)

/-- What a letter after a backslash stands for. -/
def unescape? : Char → Option Char
  | '"' => some '"'
  | '\\' => some '\\'
  | '/' => some '/'
  | 'b' => some '\x08'
  | 'f' => some '\x0c'
  | 'n' => some '\n'
  | 'r' => some '\r'
  | 't' => some '\t'
  | _ => none

/-- Whether at least four bytes follow. -/
def fourBytes (s : List Char) : Bool :=
  4 ≤ (s.take 4).foldl (fun n c => n + c.utf8Size) 0

/-- A number of four hexadecimal digits, and what follows. -/
def unit? : List Char → Except Fault (Nat × List Char)
  | a :: b :: c :: d :: r =>
    match hexDigit? a, hexDigit? b, hexDigit? c, hexDigit? d with
    | some a, some b, some c, some d => .ok (((a * 16 + b) * 16 + c) * 16 + d, r)
    | _, _, _, _ => .error .malformed
  | r => .error (if fourBytes r then .malformed else .truncated)

theorem unit?_length {s r : List Char} {n : Nat} (h : unit? s = .ok (n, r)) :
    r.length < s.length := by
  unfold unit? at h
  split at h
  · split at h
    · simp only [Except.ok.injEq, Prod.mk.injEq] at h
      simp only [← h.2, List.length_cons]
      omega
    · simp at h
  · simp at h

/-- The parts of a string up to the closing quote or the break. -/
def scanString : List Char → List Piece × Ending
  | [] => ([], .broken .truncated)
  | '"' :: r => ([], .closed r)
  | '\\' :: [] => ([], .broken .truncated)
  | '\\' :: 'u' :: r =>
    match h : unit? r with
    | .ok (n, r') =>
      have : r'.length < r.length := unit?_length h
      let (ps, e) := scanString r'
      (.unit n :: ps, e)
    | .error f => ([], .broken f)
  | '\\' :: e :: r =>
    match unescape? e with
    | some c =>
      let (ps, e) := scanString r
      (.char c :: ps, e)
    | none => ([], .broken .malformed)
  | c :: r =>
    if c.toNat < 0x20 then ([], .broken .malformed)
    else
      let (ps, e) := scanString r
      (.char c :: ps, e)
termination_by s => s.length

/-- The first half of a surrogate pair. -/
def isHighSurrogate (n : Nat) : Bool :=
  0xD800 ≤ n && n < 0xDC00

/-- The second half of a surrogate pair. -/
def isLowSurrogate (n : Nat) : Bool :=
  0xDC00 ≤ n && n < 0xE000

/-- The characters of a string, if its surrogates all come in pairs. -/
def joinPieces : List Piece → Option (List Char)
  | [] => some []
  | .char c :: ps => (joinPieces ps).map (c :: ·)
  | .unit n :: ps =>
    if isLowSurrogate n then none
    else if isHighSurrogate n then
      match ps with
      | .unit m :: ps' =>
        if isLowSurrogate m then
          (joinPieces ps').map (Char.ofNat (0x10000 + (n - 0xD800) * 0x400 + (m - 0xDC00)) :: ·)
        else none
      | _ => none
    else (joinPieces ps).map (Char.ofNat n :: ·)

/-- Whether a surrogate cannot be half of a pair whatever follows the parts. -/
def hasLoneSurrogate : List Piece → Bool
  | [] => false
  | .char _ :: ps => hasLoneSurrogate ps
  | .unit n :: ps =>
    if isLowSurrogate n then true
    else if isHighSurrogate n then
      match ps with
      | [] => false
      | .unit m :: ps' => if isLowSurrogate m then hasLoneSurrogate ps' else true
      | .char _ :: _ => true
    else hasLoneSurrogate ps

/-- The string that starts after a quote, and what follows it. -/
def stringToken (s : List Char) : Token × List Char :=
  match scanString s with
  | (ps, .closed r) => (.scalar (.string ((joinPieces ps).map String.ofList)), r)
  | (ps, .broken f) =>
    (.broken true ⟨if hasLoneSurrogate ps then .malformed else f, f⟩, [])

/-! ### Numbers -/

/-- The integers that are kept as such; others become binary numbers. -/
def fits64 (i : Int) : Bool :=
  -0x8000000000000000 ≤ i && i < 0x10000000000000000

/-- An integer literal. Minus zero is a binary number, and so is an integer of more than 64 bits:
always the nearest one. Readers that are off in the last place on long literals are left out. -/
def integerNumber (negative : Bool) (digits : List Char) : Option Number :=
  let n := ofDigits digits
  let i : Int := if negative then -(n : Int) else n
  if fits64 i && !(negative && n = 0) then some (.int i)
  else finite (Decimal.nearest .double negative ⟨n, 0⟩)
where
  /-- A binary number, unless it is infinite. -/
  finite (x : Double) : Option Number :=
    if x.isFinite then some (.float x) else none

/-- A literal with a fraction or an exponent: always the nearest binary number. Readers that are off
in the last place on long literals are left out. -/
def floatNumber (negative : Bool) (whole places : List Char) (exponent : Int) : Option Number :=
  integerNumber.finite
    (Decimal.nearest .double negative ⟨ofDigits (whole ++ places), exponent - places.length⟩)

/-- The exponent of a literal after its letter. -/
def exponentToken (negative : Bool) (whole places s : List Char) : Token × List Char :=
  let (down, r) := spanSign s
  match spanDigits r with
  | ([], rest) => (.broken false (.unfinished rest), [])
  | (digits, rest) =>
    let e : Int := ofDigits digits
    (.scalar (.number (floatNumber negative whole places (if down then -e else e))), rest)

/-- A literal from its first digit on. -/
def numberToken (negative : Bool) (s : List Char) : Token × List Char :=
  match spanDigits s with
  | ([], rest) => (.broken false (.unfinished rest), [])
  | ('0' :: _ :: _, _) => (.broken false (.both .malformed), [])
  | (whole, '.' :: r) =>
    match spanDigits r with
    | ([], rest) => (.broken false (.unfinished rest), [])
    | (places, 'e' :: r) => exponentToken negative whole places r
    | (places, 'E' :: r) => exponentToken negative whole places r
    | (places, rest) => (.scalar (.number (floatNumber negative whole places 0)), rest)
  | (whole, 'e' :: r) => exponentToken negative whole [] r
  | (whole, 'E' :: r) => exponentToken negative whole [] r
  | (whole, rest) => (.scalar (.number (integerNumber negative whole)), rest)

/-! ### Words -/

/-- What follows a word that has to stand here. -/
def expect : List Char → List Char → Except Fault (List Char)
  | [], s => .ok s
  | _ :: _, [] => .error .truncated
  | w :: ws, c :: s => if w = c then expect ws s else .error .malformed

/-- A word that stands for a scalar. -/
def wordToken (word : List Char) (v : Scalar) (s : List Char) : Token × List Char :=
  match expect word s with
  | .ok r => (.scalar v, r)
  | .error f => (.broken false (.both f), [])

/-! ### The text -/

/-- The blanks between tokens. -/
def isSpace (c : Char) : Bool :=
  c == ' ' || c == '\t' || c == '\n' || c == '\r'

/-- The token that starts with a character, and what follows it. -/
def lexeme (c : Char) (s : List Char) : Token × List Char :=
  match c with
  | '[' => (.openArray, s)
  | ']' => (.closeArray, s)
  | '\x7b' => (.openObject, s)
  | '\x7d' => (.closeObject, s)
  | ',' => (.comma, s)
  | ':' => (.colon, s)
  | '"' => stringToken s
  | 'n' => wordToken ['u', 'l', 'l'] .null s
  | 't' => wordToken ['r', 'u', 'e'] (.bool true) s
  | 'f' => wordToken ['a', 'l', 's', 'e'] (.bool false) s
  | '-' => numberToken true s
  | c => if c.isDigit then numberToken false (c :: s) else (.broken false (.both .malformed), [])

/-! ### Lengths of what follows -/

theorem scanString_length_lt {s r : List Char} (h : (scanString s).2 = .closed r) :
    r.length < s.length := by
  fun_induction scanString s with
  | case1 => cases h
  | case2 => cases h; exact Nat.lt_succ_self _
  | case3 => cases h
  | case4 _ _ _ _ hr _ _ hs ih =>
    have := ih ((congrArg Prod.snd hs).trans h)
    simp only [List.length_cons]
    omega
  | case5 => cases h
  | case6 _ _ _ _ _ _ _ hs ih =>
    have := ih ((congrArg Prod.snd hs).trans h)
    simp only [List.length_cons]
    omega
  | case7 => cases h
  | case8 => cases h
  | case9 _ _ _ _ _ _ _ _ _ hs ih =>
    exact Nat.lt_succ_of_lt (ih ((congrArg Prod.snd hs).trans h))

theorem stringToken_length_le (s : List Char) : (stringToken s).2.length ≤ s.length := by
  unfold stringToken
  split
  · rename_i h
    exact Nat.le_of_lt (scanString_length_lt (congrArg Prod.snd h))
  · exact Nat.zero_le _

theorem exponentToken_length_le (negative : Bool) (whole places s : List Char) :
    (exponentToken negative whole places s).2.length ≤ s.length := by
  have h := spanSign_length_le s
  have h' := spanDigits_length_le (spanSign s).2
  simp only [exponentToken]
  split
  · simp
  · rename_i r _ _ h''
    rw [h''] at h'
    exact Nat.le_trans h' h

theorem numberToken_length_le (negative : Bool) (s : List Char) :
    (numberToken negative s).2.length ≤ (spanDigits s).2.length := by
  have places (r : List Char) := spanDigits_length_le r
  have power (w p r : List Char) := exponentToken_length_le negative w p r
  unfold numberToken
  split
  · simp
  · simp
  · rename_i r _ _ h
    have hr := places r
    rw [h]
    split
    · simp
    · rename_i p r' h'
      rw [h'] at hr
      exact Nat.le_trans (power ..) (by simp only [List.length_cons] at hr ⊢; omega)
    · rename_i p r' h'
      rw [h'] at hr
      exact Nat.le_trans (power ..) (by simp only [List.length_cons] at hr ⊢; omega)
    · rename_i h'
      rw [h'] at hr
      exact Nat.le_succ_of_le hr
  · rename_i r _ _ h
    rw [h]
    exact Nat.le_trans (power ..) (by simp)
  · rename_i r _ _ h
    rw [h]
    exact Nat.le_trans (power ..) (by simp)
  · rename_i h
    exact Nat.le_of_eq (congrArg (·.2.length) h.symm)

theorem expect_length_le {word s r : List Char} (h : expect word s = .ok r) :
    r.length ≤ s.length := by
  fun_induction expect word s with
  | case1 => cases h; exact Nat.le_refl _
  | case2 => cases h
  | case3 _ _ _ ih => exact Nat.le_succ_of_le (ih h)
  | case4 => cases h

theorem wordToken_length_le (word : List Char) (v : Scalar) (s : List Char) :
    (wordToken word v s).2.length ≤ s.length := by
  unfold wordToken
  split
  · rename_i h
    exact expect_length_le h
  · simp

theorem lexeme_length_le (c : Char) (s : List Char) : (lexeme c s).2.length ≤ s.length := by
  unfold lexeme
  split <;> try exact Nat.le_refl _
  · exact stringToken_length_le s
  · exact wordToken_length_le ..
  · exact wordToken_length_le ..
  · exact wordToken_length_le ..
  · exact Nat.le_trans (numberToken_length_le ..) (spanDigits_length_le s)
  · split
    · rename_i h
      refine Nat.le_trans (numberToken_length_le ..) ?_
      simpa [spanDigits, h] using (List.dropWhile_sublist Char.isDigit).length_le
    · exact Nat.zero_le _

/-- The tokens of a text, up to its end or to where it breaks off. -/
def tokens : List Char → List Token
  | [] => []
  | c :: s =>
    if isSpace c then tokens s
    else
      have : (lexeme c s).2.length ≤ s.length := lexeme_length_le c s
      (lexeme c s).1 :: tokens (lexeme c s).2
termination_by s => s.length

end Storyboard.Json
