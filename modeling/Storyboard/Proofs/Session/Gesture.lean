import Storyboard.Proofs.Session.Containment
import Storyboard.Proofs.Session.Independence

/-!
# Positions that a gesture misses

A gesture remembers where it began, and what it makes of an element depends on that and on where
the pointer is now. So every position but the last may be left out, also where other elements are
edited and variables are changed in between.
-/

namespace Storyboard

/-- Whether an action has to do with variables, or edits a live element of another name. -/
def Action.spares (id : ElementId) : Action → Bool
  | .edit other _ => other ≠ id
  | .updateGesture g _ => g.element ≠ id
  | .addVariable _ | .editVariable _ _ | .renameVariable _ _ | .deleteVariable _ => true
  | _ => false

namespace Edit

variable {e : Element} (ctx : EditContext)

/-- A move leaves the size that an element shows. -/
lemma resolvedSize_apply_move (h : e.kind.isMenu = false) (p : Position) (fonts : FontSizes) :
    ((Edit.move p).apply ctx e).resolvedSize fonts = e.resolvedSize fonts := by
  rw [apply_move ctx h]
  exact Element.resolvedSize_conform fonts h

/-- The second of two moves wins: it is clamped for the size for which the first one was. -/
lemma move_move (h : e.kind.isMenu = false) (p q : Position) :
    (Edit.move p).apply ctx ((Edit.move q).apply ctx e) = (Edit.move p).apply ctx e := by
  rw [apply_move ctx (e := (Edit.move q).apply ctx e) (by simpa using h),
    resolvedSize_apply_move ctx h, apply_move ctx h, apply_move ctx h,
    Element.conform_withPosition, Element.conform_conform]

/-- The second of two sizes wins. -/
lemma resize_resize (h : e.kind.isMenu = false) (w height w' height' : Int) :
    (Edit.resize w height).apply ctx ((Edit.resize w' height').apply ctx e)
      = (Edit.resize w height).apply ctx e := by
  rw [apply_resize ctx (e := (Edit.resize w' height').apply ctx e) (by simpa using h),
    apply_resize ctx h, apply_resize ctx h, Element.conform_withSize, Element.conform_conform]

end Edit

namespace Gesture

/-- What a gesture makes of an element does not depend on where the pointer was before. -/
theorem apply_apply (g : Gesture) (ctx : EditContext) (e : Element) (p q : Position) :
    (g.edit p).apply ctx ((g.edit q).apply ctx e) = (g.edit p).apply ctx e := by
  cases hm : e.kind.isMenu with
  | true =>
    rw [Edit.apply_of_menu ctx (by simpa using hm), Edit.apply_of_menu ctx hm,
      Edit.apply_of_menu ctx hm, Element.conform_conform]
  | false =>
    cases hg : g.kind with
    | drag => simp only [edit, hg, Edit.move_move ctx hm]
    | resize => simp only [edit, hg, Edit.resize_resize ctx hm]

end Gesture

namespace Session

variable {s : Session} {n : Nat} {a : Action} {e : Element} {id : ElementId}

/-! ### What edits and other actions make of each other -/

/-- An edit of a name that no live element has changes nothing. -/
lemma edited_of_unknown (h : s.Unknown id) (edit : Edit) : s.edited id edit = s := by
  have hlive : s.editLive id edit s.live = s.live :=
    (List.map_congr_left fun e he => if_neg (h e he)).trans (List.map_id s.live)
  rw [edited, hlive]

/-- An edit goes on by itself, whether or not it is refused. -/
lemma after_edit (id : ElementId) (edit : Edit) :
    s.after n (.edit id edit) = (s.edited id edit, n) := by
  by_cases h : id ∈ s.live.map (·.id)
  · simp [after, perform, edit_of_mem h, quiet, Except.map]
  · have hunknown : s.Unknown id := by
      intro e he hid
      exact h (hid ▸ List.mem_map_of_mem he)
    have herror : s.edit id edit = .error (.unknownElement id) :=
      edit_eq_error.mpr ⟨hunknown, rfl⟩
    simp [after, perform, herror, quiet, Except.map, edited_of_unknown hunknown]

lemma after_updateGesture (g : Gesture) (p : Position) :
    s.after n (.updateGesture g p) = (s.edited g.element (g.edit p), n) :=
  after_edit g.element (g.edit p)

/-- Of two updates of a gesture, the later one wins. -/
lemma edited_edited (g : Gesture) (p q : Position) :
    (s.edited g.element (g.edit q)).edited g.element (g.edit p)
      = s.edited g.element (g.edit p) := by
  have hlive : s.editLive g.element (g.edit p) (s.editLive g.element (g.edit q) s.live)
      = s.editLive g.element (g.edit p) s.live := by
    simp only [editLive, List.map_map]
    refine List.map_congr_left fun e _ => ?_
    by_cases he : e.id = g.element
    · simp [he, g.apply_apply]
    · simp [he]
  exact congrArg (fun live => { s with live := live }) hlive

/-! ### Actions on variables -/

/-- Whatever else differs in two sessions with these variables, the action does the same in both:
it gives them other variables, and nothing more. -/
def OnlyVariables (s : Session) (a : Action) : Prop :=
  ∃ vars, ∀ t m, t.project.vars = s.project.vars → after t m a = (t.withVariables vars, m)

lemma onlyVariables_of_error
    (h : ∀ t m, t.project.vars = s.project.vars → ∃ e, perform t m a = (.error e, m)) :
    s.OnlyVariables a := by
  use s.project.vars
  intro t m ht
  obtain ⟨e, hrefused⟩ := h t m ht
  rw [after, hrefused, ← ht]
  rfl

lemma onlyVariables_of_ok (vars : VariableStore)
    (h : ∀ t m, t.project.vars = s.project.vars →
      ∃ o, perform t m a = (.ok (o, t.withVariables vars), m)) :
    s.OnlyVariables a := by
  use vars
  intro t m ht
  obtain ⟨o, hdone⟩ := h t m ht
  rw [after, hdone]

/-- Whether a variable could get a name depends on the variables only. -/
lemma checkVariableName_congr {t : Session} (h : t.project.vars = s.project.vars) (name : String) :
    t.checkVariableName name = s.checkVariableName name := by
  rw [checkVariableName, checkVariableName, h]

lemma onlyVariables_addVariable (s : Session) (name : String) :
    s.OnlyVariables (.addVariable name) := by
  cases hc : s.checkVariableName name with
  | error e =>
    refine onlyVariables_of_error fun t m ht => ⟨e, ?_⟩
    rw [perform, addVariable, checkVariableName_congr ht, hc]
    rfl
  | ok =>
    refine onlyVariables_of_ok ((s.project.vars.add? name).getD s.project.vars)
      fun t m ht => ⟨.nothing, ?_⟩
    rw [perform, addVariable, checkVariableName_congr ht, hc, ht]
    rfl

lemma onlyVariables_editVariable (s : Session) (name value : String) :
    s.OnlyVariables (.editVariable name value) := by
  cases hv : s.project.vars.set? name value with
  | none =>
    refine onlyVariables_of_error fun t m ht => ⟨.unknownVariable name, ?_⟩
    simp [perform, editVariable, ht, hv, quiet, Except.map]
  | some vars =>
    refine onlyVariables_of_ok vars fun t m ht => ⟨.nothing, ?_⟩
    simp [perform, editVariable, ht, hv, quiet, Except.map]

lemma onlyVariables_renameVariable (s : Session) (old new : String) :
    s.OnlyVariables (.renameVariable old new) := by
  cases ho : s.project.vars.contains old with
  | false =>
    refine onlyVariables_of_error fun t m ht => ⟨.unknownVariable old, ?_⟩
    simp [perform, renameVariable, ht, ho, quiet, Except.map]
  | true =>
    cases hc : s.checkVariableName new with
    | error e =>
      refine onlyVariables_of_error fun t m ht => ⟨e, ?_⟩
      rw [perform, renameVariable, ht, if_pos ho, checkVariableName_congr ht, hc]
      rfl
    | ok =>
      refine onlyVariables_of_ok ((s.project.vars.rename? old new).getD s.project.vars)
        fun t m ht => ⟨.nothing, ?_⟩
      rw [perform, renameVariable, ht, if_pos ho, checkVariableName_congr ht, hc]
      rfl

lemma onlyVariables_deleteVariable (s : Session) (name : String) :
    s.OnlyVariables (.deleteVariable name) := by
  cases hv : s.project.vars.remove? name with
  | none =>
    refine onlyVariables_of_error fun t m ht => ⟨.unknownVariable name, ?_⟩
    simp [perform, deleteVariable, ht, hv, telling, Except.map]
  | some removed =>
    refine onlyVariables_of_ok removed.2 fun t m ht => ⟨.text removed.1, ?_⟩
    simp [perform, deleteVariable, ht, hv, telling, Except.map]

/-! ### Actions that spare an element -/

/-- An action that spares an element edits another one or has to do with variables only. -/
lemma spares_cases (h : a.spares id = true) (s : Session) :
    (∃ other edit, other ≠ id ∧ ∀ t m, after t m a = (t.edited other edit, m)) ∨
      s.OnlyVariables a := by
  cases a with
  | edit other edit =>
    exact .inl ⟨other, edit, of_decide_eq_true h, fun t m => after_edit other edit⟩
  | updateGesture g p =>
    exact .inl ⟨g.element, g.edit p, of_decide_eq_true h, fun t m => after_updateGesture g p⟩
  | addVariable name => exact .inr (s.onlyVariables_addVariable name)
  | editVariable name value => exact .inr (s.onlyVariables_editVariable name value)
  | renameVariable old new => exact .inr (s.onlyVariables_renameVariable old new)
  | deleteVariable name => exact .inr (s.onlyVariables_deleteVariable name)
  | _ => cases h

/-- An action that spares an element can change places with an edit of it. -/
lemma after_edited (h : a.spares id = true) (edit : Edit) :
    (s.edited id edit).after n a = ((s.after n a).1.edited id edit, (s.after n a).2) := by
  obtain ⟨other, edit', hne, ha⟩ | ⟨vars, ha⟩ := spares_cases h s
  · rw [ha, ha, edited_comm hne.symm]
  · rw [ha s n rfl, ha (s.edited id edit) n rfl]
    rfl

/-- The element of a name is looked up before or after an edit. -/
lemma element?_edited (other : ElementId) (edit : Edit) :
    (s.edited other edit).element? id
      = (s.element? id).map fun e => if e.id = other then edit.apply s.editContext e else e := by
  have hname : (fun e : Element => decide (e.id = id)) ∘
      (fun e => if e.id = other then edit.apply s.editContext e else e)
        = fun e => decide (e.id = id) := by
    funext e
    by_cases he : e.id = other <;> simp [he]
  rw [element?, edited, editLive, List.find?_map, hname, element?]

lemma element?_edited_self (id : ElementId) (edit : Edit) :
    (s.edited id edit).element? id = (s.element? id).map (edit.apply s.editContext) := by
  rw [element?_edited]
  refine Option.map_congr fun e he => if_pos ?_
  simpa using List.find?_some he

lemma element?_edited_of_ne {other : ElementId} (h : other ≠ id) (edit : Edit) :
    (s.edited other edit).element? id = s.element? id := by
  rw [element?_edited]
  refine (Option.map_congr fun e he => if_neg ?_).trans Option.map_id'
  have hid : e.id = id := by simpa using List.find?_some he
  exact hid ▸ h.symm

/-- An action that spares an element leaves it as it is, and what its edits depend on. -/
lemma after_spared (h : a.spares id = true) :
    (s.after n a).1.element? id = s.element? id ∧ (s.after n a).1.editContext = s.editContext := by
  obtain ⟨other, edit, hne, ha⟩ | ⟨vars, ha⟩ := spares_cases h s
  · rw [ha]
    exact ⟨element?_edited_of_ne hne edit, rfl⟩
  · rw [ha s n rfl]
    exact ⟨rfl, rfl⟩

/-! ### Runs -/

variable {actions before rest : List Action}

/-- Actions that spare an element leave it as it is, and what its edits depend on. -/
lemma run_spared (h : ∀ a ∈ actions, a.spares id = true) :
    (s.run n actions).1.element? id = s.element? id ∧
      (s.run n actions).1.editContext = s.editContext := by
  induction actions generalizing s n with
  | nil => exact ⟨rfl, rfl⟩
  | cons a actions ih =>
    obtain ⟨ha, hactions⟩ := List.forall_mem_cons.mp h
    obtain ⟨helement, hcontext⟩ := after_spared (s := s) (n := n) ha
    rw [run_cons, ← helement, ← hcontext]
    exact ih hactions

/-- Actions that spare an element can change places with an edit of it. -/
lemma run_edited (h : ∀ a ∈ actions, a.spares id = true) (edit : Edit) :
    (s.edited id edit).run n actions
      = ((s.run n actions).1.edited id edit, (s.run n actions).2) := by
  induction actions generalizing s n with
  | nil => rfl
  | cons a actions ih =>
    obtain ⟨ha, hactions⟩ := List.forall_mem_cons.mp h
    rw [run_cons, run_cons, after_edited ha, ih hactions]

/-- An update leaves no trace if there is a later one, whatever happens to other elements and to
variables in between. -/
lemma run_edited_gesture (g : Gesture) (p q : Position)
    (h : ∀ a ∈ actions, a.spares g.element = true) :
    (s.edited g.element (g.edit q)).run n (actions ++ .updateGesture g p :: rest)
      = s.run n (actions ++ .updateGesture g p :: rest) := by
  rw [run_append, run_append, run_edited h, run_cons, run_cons, after_updateGesture,
    after_updateGesture, edited_edited]

/-- All updates before the last one may be left out. -/
lemma run_gesture (g : Gesture) (p : Position)
    (h : ∀ a ∈ before, a.spares g.element = true ∨ ∃ q, a = .updateGesture g q) :
    s.run n (before ++ .updateGesture g p :: rest)
      = s.run n (before.filter (·.spares g.element) ++ .updateGesture g p :: rest) := by
  induction before generalizing s n with
  | nil => rfl
  | cons a before ih =>
    obtain ⟨ha, hbefore⟩ := List.forall_mem_cons.mp h
    obtain ha | ⟨q, rfl⟩ := ha
    · rw [List.filter_cons_of_pos ha, List.cons_append, List.cons_append, run_cons, run_cons,
        ih hbefore]
    · have hkept : ∀ a ∈ before.filter (·.spares g.element), a.spares g.element = true :=
        fun a ha => (List.mem_filter.mp ha).2
      rw [List.filter_cons_of_neg (by simp [Action.spares]), List.cons_append, run_cons,
        after_updateGesture, ih hbefore, run_edited_gesture g p q hkept]

/-- What becomes of an element depends on the last update of its gesture only. -/
lemma element?_run_gesture (g : Gesture) (p : Position)
    (hbefore : ∀ a ∈ before, a.spares g.element = true ∨ ∃ q, a = .updateGesture g q)
    (hrest : ∀ a ∈ rest, a.spares g.element = true) :
    (s.run n (before ++ .updateGesture g p :: rest)).1.element? g.element
      = (s.element? g.element).map ((g.edit p).apply s.editContext) := by
  have hkept : ∀ a ∈ before.filter (·.spares g.element), a.spares g.element = true :=
    fun a ha => (List.mem_filter.mp ha).2
  obtain ⟨helement, hcontext⟩ := run_spared (s := s) (n := n) hkept
  rw [run_gesture g p hbefore, run_append, run_cons, after_updateGesture,
    (run_spared hrest).1, element?_edited_self, helement, hcontext]

/-! ### Gestures on the elements of a session -/

/-- What becomes of an element when the pointer of a gesture has come to a position: a drag gives
it a position and no more, and none but its own when the pointer is back where it started and the
element was inside the canvas; a resize gives it a size and no more. -/
structure Follows (s : Session) (kind : GestureKind) (start p : Position) (e e' : Element) :
    Prop where
  drag : kind = .drag → ∃ q, e' = { e with position := q }
  resize : kind = .resize → ∃ size, e' = { e with size }
  returns : kind = .drag → p = start → e.LiesInside s.canvas s.fonts → e' = e

lemma Reachable.follows {admits : Action → Prop} (hs : Reachable admits s n) (he : e ∈ s.live)
    (kind : GestureKind) (start p : Position) :
    s.Follows kind start p e
      (((Gesture.start kind e start s.fonts).edit p).apply s.editContext e) := by
  cases hm : e.kind.isMenu with
  | true =>
    rw [(hs.canonicalMenu e (.inl he) hm).apply_eq hm]
    exact ⟨fun _ => ⟨_, rfl⟩, fun _ => ⟨_, rfl⟩, fun _ _ _ => rfl⟩
  | false =>
    have heffect := hs.edit_effect (.inl he) hm ((Gesture.start kind e start s.fonts).edit p)
    generalize ((Gesture.start kind e start s.fonts).edit p).apply s.editContext e = e' at heffect
    cases kind with
    | drag =>
      cases heffect
      refine ⟨fun _ => ⟨_, rfl⟩, GestureKind.noConfusion, fun _ hp hinside => ?_⟩
      subst hp
      simp only [Gesture.start, Int.sub_self, Int.add_zero]
      have hclamp := hinside.clamp_eq
      rw [editContext, hclamp]
    | resize =>
      cases heffect
      exact ⟨GestureKind.noConfusion, fun _ => ⟨_, rfl⟩, GestureKind.noConfusion⟩

/-- A gesture begins on every live element, and of all its positions only the last one counts,
whatever is done to other elements and to variables in between: the session comes to be as if the
ones before had never been seen, and the element as if nothing else had been done at all. -/
theorem gesture_last_position {admits : Action → Prop} (hs : Reachable admits s n)
    (he : e ∈ s.live) (kind : GestureKind) (start : Position) :
    ∃ g, s.beginGesture e.id kind start = .ok g ∧ ∀ (before : List Action) p rest,
      (∀ a ∈ before, a.spares e.id = true ∨ ∃ q, a = .updateGesture g q) →
      (∀ a ∈ rest, a.spares e.id = true) →
        s.run n (before ++ .updateGesture g p :: rest)
          = s.run n (before.filter (·.spares e.id) ++ .updateGesture g p :: rest) ∧
        ∃ s' e', s.updateGesture g p = .ok s' ∧ s'.element? e.id = some e' ∧
          (s.run n (before ++ .updateGesture g p :: rest)).1.element? e.id = some e' ∧
          s.Follows kind start p e e' := by
  have hfound : s.element? e.id = some e := element?_of_mem hs.nodup_live he
  set g := Gesture.start kind e start s.fonts with hg
  have hbegin : s.beginGesture e.id kind start = .ok g := by
    simp [beginGesture, element, hfound, bind, Except.bind, pure, Except.pure, hg]
  refine ⟨g, hbegin, ?_⟩
  intro before p rest hbefore hrest
  have hupdate : s.updateGesture g p = .ok (s.edited e.id (g.edit p)) :=
    edit_of_mem (List.mem_map_of_mem he) (g.edit p)
  have hrun := element?_run_gesture (s := s) (n := n) g p hbefore hrest
  rw [show g.element = e.id from rfl, hfound] at hrun
  refine ⟨run_gesture g p hbefore, s.edited e.id (g.edit p), (g.edit p).apply s.editContext e,
    hupdate, ?_, hrun, hs.follows he kind start p⟩
  rw [element?_edited_self, hfound]
  rfl

/-- A timer without a size is dragged far beyond both corners and back, while a button gets a text
and is moved and a variable is created, refused and deleted. -/
theorem gesture_last_position_timer :
    let actions : List Action :=
      [.addElement (.ofTag "timer") ⟨300, 20⟩, .addElement .button ⟨10, 60⟩]
    let s := ((Session.new {} 0).1.run 0 actions).1
    let timer := (Session.new {} 0).1.newElement 0 (.ofTag "timer") ⟨300, 20⟩
    let button := ElementId.numbered "button" 1
    Reachable (fun _ => True) s 2 ∧ timer ∈ s.live ∧ timer.LiesInside s.canvas s.fonts ∧
      ∃ g, s.beginGesture timer.id .drag ⟨305, 25⟩ = .ok g ∧
        let before : List Action :=
          [.updateGesture g ⟨-5000, 9⟩, .edit button (.text "$score"), .addVariable "score",
            .updateGesture g ⟨9000, 9000⟩, .addVariable "score"]
        let rest : List Action := [.edit button (.move ⟨0, 0⟩), .deleteVariable "score"]
        before.filter (·.spares timer.id)
          = [.edit button (.text "$score"), .addVariable "score", .addVariable "score"] ∧
        s.run 2 (before ++ .updateGesture g ⟨305, 25⟩ :: rest)
          = s.run 2 (before.filter (·.spares timer.id) ++ .updateGesture g ⟨305, 25⟩ :: rest) ∧
        (s.run 2 (before ++ .updateGesture g ⟨305, 25⟩ :: rest)).1.element? timer.id
          = some timer := by
  intro actions s timer button
  have hs : Reachable (fun _ => True) s 2 := (Reachable.new {} 0).run fun _ _ => trivial
  have hmem : timer ∈ s.live := by decide +kernel
  have hinside : timer.LiesInside s.canvas s.fonts :=
    liesInside_newElement 0 (.ofTag "timer") ⟨300, 20⟩ rfl
  refine ⟨hs, hmem, hinside, ?_⟩
  obtain ⟨g, hg, hlast⟩ := gesture_last_position hs hmem .drag ⟨305, 25⟩
  have hstart : s.beginGesture timer.id .drag ⟨305, 25⟩
      = .ok (.start .drag timer ⟨305, 25⟩ s.fonts) := by decide +kernel
  obtain rfl : .start .drag timer ⟨305, 25⟩ s.fonts = g := Except.ok.inj (hstart.symm.trans hg)
  refine ⟨_, hg, ?_⟩
  intro before rest
  have hbefore : ∀ a ∈ before, a.spares timer.id = true ∨
      ∃ q, a = .updateGesture (.start .drag timer ⟨305, 25⟩ s.fonts) q := by
    have hother : button ≠ timer.id := by decide +kernel
    simp [before, Action.spares, hother]
  have hrest : ∀ a ∈ rest, a.spares timer.id = true := by decide +kernel
  obtain ⟨hrun, s', e', -, -, hfound, hfollows⟩ := hlast before ⟨305, 25⟩ rest hbefore hrest
  rw [hfollows.returns rfl rfl hinside] at hfound
  exact ⟨by decide +kernel, hrun, hfound⟩

end Session

end Storyboard
