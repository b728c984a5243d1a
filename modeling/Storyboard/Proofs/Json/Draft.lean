import Storyboard.Json.Read
import Storyboard.Proofs.Json.Text

/-!
# Drafts of written values

The machine that builds drafts builds from the tokens of a value the draft of this value, within
any containers. So the text of a readable value has the draft of the value, and nothing stands
after it.
-/

namespace Storyboard.Json.Draft

open State

lemma ofValues_eq_map (vs : List Value) : ofValues vs = vs.map ofValue := by
  induction vs with
  | nil => rfl
  | cons v vs ih => rw [ofValues, ih, List.map_cons]

lemma ofMembers_eq_map (ms : List (String × Value)) :
    ofMembers ms = ms.map fun m => (some m.1, ofValue m.2) := by
  induction ms with
  | nil => rfl
  | cons m ms ih => rw [ofMembers, ih, List.map_cons]

/-- A value does not begin like the end of an array. -/
lemma run_itemOrEnd (v : Value) (ts : List Token) (outer : List Frame) :
    (itemOrEnd outer).run (v.tokens ++ ts)
      = (State.value (.items [] :: outer)).run (v.tokens ++ ts) := by
  match v with
  | .null | .bool _ | .number _ | .string _ => rfl
  | .array [] | .array (_ :: _) => rfl
  | .object [] | .object (_ :: _) => rfl

mutual

/-- The machine takes in a value as a whole. -/
theorem run_tokens (v : Value) (outer : List Frame) :
    (State.value outer).run v.tokens = put (ofValue v) outer := by
  match v with
  | .null | .bool _ | .number _ | .string _ => rfl
  | .array [] => rfl
  | .array (v :: vs) =>
    have hfirst : (itemOrEnd outer).run (v.tokens ++ (itemTokens vs ++ [.closeArray]))
        = (afterItem [ofValue v] outer).run (itemTokens vs ++ [.closeArray]) := by
      rw [run_itemOrEnd, run_append, run_tokens v (.items [] :: outer), put]
    calc (State.value outer).run (Value.array (v :: vs)).tokens
        = (itemOrEnd outer).run (v.tokens ++ (itemTokens vs ++ [.closeArray])) := by
          simp [Value.tokens, step, takeValue]
      _ = (afterItem ((ofValues vs).reverse ++ [ofValue v]) outer).run [.closeArray] := by
          rw [hfirst, run_append, run_itemTokens]
      _ = put (ofValue (.array (v :: vs))) outer := by
          simp [step, ofValue, ofValues]
  | .object [] => rfl
  | .object ((k, v) :: ms) =>
    have hfirst : (State.value (.members [] (some k) :: outer)).run
          (v.tokens ++ (memberTokens ms ++ [.closeObject]))
        = (afterMember [(some k, ofValue v)] outer).run (memberTokens ms ++ [.closeObject]) := by
      rw [run_append, run_tokens v (.members [] (some k) :: outer), put]
    calc (State.value outer).run (Value.object ((k, v) :: ms)).tokens
        = (State.value (.members [] (some k) :: outer)).run
            (v.tokens ++ (memberTokens ms ++ [.closeObject])) := by
          simp [Value.tokens, step, takeValue, takeKey]
      _ = (afterMember ((ofMembers ms).reverse ++ [(some k, ofValue v)]) outer).run
            [.closeObject] := by
          rw [hfirst, run_append, run_memberTokens]
      _ = put (ofValue (.object ((k, v) :: ms))) outer := by
          simp [step, ofValue, ofMembers]

theorem run_itemTokens (vs : List Value) (before : List Draft) (outer : List Frame) :
    (afterItem before outer).run (itemTokens vs)
      = afterItem ((ofValues vs).reverse ++ before) outer := by
  match vs with
  | [] => rfl
  | v :: vs =>
    rw [itemTokens, List.cons_append, run_cons, run_append, step,
      run_tokens v (.items before :: outer), put, run_itemTokens vs]
    simp [ofValues]

theorem run_memberTokens (ms : List (String × Value)) (before : List (Option String × Draft))
    (outer : List Frame) :
    (afterMember before outer).run (memberTokens ms)
      = afterMember ((ofMembers ms).reverse ++ before) outer := by
  match ms with
  | [] => rfl
  | (k, v) :: ms =>
    rw [memberTokens, List.cons_append, run_cons, List.cons_append, run_cons, List.cons_append,
      run_cons, run_append, step, step, takeKey, step,
      run_tokens v (.members before (some k) :: outer), put, run_memberTokens ms]
    simp [ofMembers]

end

/-- The text of a readable value with nothing but blanks after it has the draft of the value. -/
theorem ofText_chars (l : Layout) {v : Value} (hv : v.Readable) {rest : List Char}
    (hr : Delimited rest) (ht : tokens rest = []) :
    ofText (.ofList (v.chars l 0 ++ rest)) = (ofValue v, false) := by
  rw [ofText, String.toList_ofList, tokens_chars l v 0 rest hv hr, ht, List.append_nil,
    run_tokens]
  rfl

end Storyboard.Json.Draft
