import Storyboard.Json.Token

/-!
# Drafts

A draft is the tree of a JSON text as far as the text goes. It keeps what a reader may want to
judge later: repeated keys, strings and numbers that denote nothing, and the place where the text
broke off. After a break nothing more is taken in, so whoever walks through a draft in order
meets the first problem of the text first.

The tree is built by a machine that takes one token at a time. What it says about a whole text
follows from what it says about the text of each part.
-/

namespace Storyboard.Json

inductive Draft
  | scalar (s : Scalar)
  /-- The text broke off where a value should stand. -/
  | broken (b : Break)
  /-- An array, and the break that stands where a comma or the end of it should. -/
  | array (items : List Draft) (ending : Option Break)
  /-- An object, and the break that stands where a key, a comma or the end of it should. -/
  | object (members : List (Option String × Draft)) (ending : Option Break)

namespace Draft

/-- A container that is still open, with what stands before the current value in reverse. -/
inductive Frame
  | items (before : List Draft)
  | members (before : List (Option String × Draft)) (key : Option String)

/-- What may stand next. The containers around it are listed from the inside out. -/
inductive State
  | value (outer : List Frame)
  | itemOrEnd (outer : List Frame)
  | keyOrEnd (outer : List Frame)
  | key (before : List (Option String × Draft)) (outer : List Frame)
  | colon (before : List (Option String × Draft)) (key : Option String) (outer : List Frame)
  | afterItem (before : List Draft) (outer : List Frame)
  | afterMember (before : List (Option String × Draft)) (outer : List Frame)
  /-- The value is complete. -/
  | complete (d : Draft)
  /-- More stands after a complete value. -/
  | surplus (d : Draft)
  /-- The text broke off. -/
  | stopped (d : Draft)

namespace State

/-- The state after a complete value. -/
def put (d : Draft) : List Frame → State
  | [] => .complete d
  | .items before :: outer => .afterItem (d :: before) outer
  | .members before k :: outer => .afterMember ((k, d) :: before) outer

/-- The whole draft, when its innermost part is the last that the text has. -/
def close (d : Draft) : List Frame → Draft
  | [] => d
  | .items before :: outer => close (.array (before.reverse ++ [d]) none) outer
  | .members before k :: outer => close (.object (before.reverse ++ [(k, d)]) none) outer

/-- The whole draft, when a value is missing. -/
def noValue (b : Break) (outer : List Frame) : Draft :=
  close (.broken b) outer

/-- The whole draft, when an array does not go on. -/
def noItem (b : Break) (before : List Draft) (outer : List Frame) : Draft :=
  close (.array before.reverse b) outer

/-- The whole draft, when an object does not go on. -/
def noMember (b : Break) (before : List (Option String × Draft)) (outer : List Frame) : Draft :=
  close (.object before.reverse b) outer

/-- A token where a value has to stand. -/
def takeValue (outer : List Frame) : Token → State
  | .scalar s => put (.scalar s) outer
  | .openArray => .itemOrEnd outer
  | .openObject => .keyOrEnd outer
  | .broken _ b => .stopped (noValue b outer)
  | .closeArray | .closeObject | .comma | .colon =>
    .stopped (noValue (.both .malformed) outer)

/-- A token where a key has to stand. -/
def takeKey (before : List (Option String × Draft)) (outer : List Frame) : Token → State
  | .scalar (.string k) => .colon before k outer
  | .broken true b => .stopped (noMember b before outer)
  | _ => .stopped (noMember (.both .malformed) before outer)

def step : State → Token → State
  | .value outer, t => takeValue outer t
  | .itemOrEnd outer, .closeArray => put (.array [] none) outer
  | .itemOrEnd outer, t => takeValue (.items [] :: outer) t
  | .keyOrEnd outer, .closeObject => put (.object [] none) outer
  | .keyOrEnd outer, t => takeKey [] outer t
  | .key before outer, t => takeKey before outer t
  | .colon before k outer, .colon => .value (.members before k :: outer)
  | .colon before k outer, _ =>
    .stopped (noValue (.both .malformed) (.members before k :: outer))
  | .afterItem before outer, .comma => .value (.items before :: outer)
  | .afterItem before outer, .closeArray => put (.array before.reverse none) outer
  | .afterItem before outer, _ => .stopped (noItem (.both .malformed) before outer)
  | .afterMember before outer, .comma => .key before outer
  | .afterMember before outer, .closeObject => put (.object before.reverse none) outer
  | .afterMember before outer, _ => .stopped (noMember (.both .malformed) before outer)
  | .complete d, _ => .surplus d
  | .surplus d, _ => .surplus d
  | .stopped d, _ => .stopped d

/-- The draft of a text that ends in this state, and whether more stands after its value. -/
def finish : State → Draft × Bool
  | .value outer => (noValue (.both .truncated) outer, false)
  | .itemOrEnd outer => (noValue (.both .truncated) (.items [] :: outer), false)
  | .keyOrEnd outer => (noMember (.both .truncated) [] outer, false)
  | .key before outer => (noMember (.both .truncated) before outer, false)
  | .colon before k outer =>
    (noValue (.both .truncated) (.members before k :: outer), false)
  | .afterItem before outer => (noItem (.both .truncated) before outer, false)
  | .afterMember before outer => (noMember (.both .truncated) before outer, false)
  | .complete d => (d, false)
  | .surplus d => (d, true)
  | .stopped d => (d, false)

end State

/-- The state after some tokens. -/
def State.run (s : State) (ts : List Token) : State :=
  ts.foldl State.step s

/-- The draft of a text, and whether more stands after its value. -/
def ofText (s : String) : Draft × Bool :=
  (State.run (.value []) (tokens s.toList)).finish

/-! ### The machine -/

@[simp] theorem State.run_nil (s : State) : s.run [] = s := rfl

@[simp] theorem State.run_cons (s : State) (t : Token) (ts : List Token) :
    s.run (t :: ts) = (s.step t).run ts := rfl

theorem State.run_append (s : State) (ts us : List Token) :
    s.run (ts ++ us) = (s.run ts).run us := by
  simp [State.run, List.foldl_append]

end Draft

end Storyboard.Json
