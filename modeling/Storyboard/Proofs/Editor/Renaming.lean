import Storyboard.Proofs.Editor.Call
import Storyboard.Proofs.Session.Renaming

/-!
# Editors under other names

A page that calls the elements by other names gets the same answers under these names, if the names
that are taken next are renamed too. So nothing that a page can ask tells at which number its
editor has arrived.
-/

namespace Storyboard

open ElementId

variable {σ : ElementId → ElementId} {m k : Nat}

/-! ### Diagnostics -/

/-- The diagnostic with another name for its element. -/
def Diagnostic.rename (σ : ElementId → ElementId) (d : Diagnostic) : Diagnostic :=
  { d with element := d.element.map σ }

namespace Project

variable (p : Project)

lemma triggerFinding_rename (t : Trigger) :
    (p.rename σ).triggerFinding t = p.triggerFinding t := by
  cases t with
  | changeScene target => simp [triggerFinding, SceneTable.contains]
  | _ => rfl

lemma elementDiagnostics_rename {rule rule' : Element → List Finding}
    (h : ∀ e : Element, rule' (e.rename σ) = rule e) :
    (p.rename σ).elementDiagnostics rule' = (p.elementDiagnostics rule).map (·.rename σ) := by
  simp [elementDiagnostics, SceneTable.rename, SceneTable.mapElements, List.flatMap_map,
    List.map_flatMap, h, Diagnostic.rename, Function.comp_def]

lemma lint_rename : (p.rename σ).lint = p.lint.map (·.rename σ) := by
  have htriggers : (p.rename σ).lintTriggers = p.lintTriggers.map (·.rename σ) :=
    p.elementDiagnostics_rename fun e => by
      have hfinding : (p.rename σ).triggerFinding = p.triggerFinding :=
        funext p.triggerFinding_rename
      rw [Element.rename_trigger, hfinding]
  have htexts : (p.rename σ).lintTexts = p.lintTexts.map (·.rename σ) :=
    p.elementDiagnostics_rename fun e => rfl
  have hscenes : (p.rename σ).lintScenes = p.lintScenes.map (·.rename σ) := by
    simp [lintScenes, SceneTable.rename, SceneTable.mapElements, List.filter_map,
      Diagnostic.rename, Function.comp_def]
  rw [lint, htriggers, htexts, hscenes, lint, List.map_append, List.map_append]

end Project

namespace Editor

/-! ### Calls and answers -/

/-- The call with other names for elements. -/
def Call.rename (σ : ElementId → ElementId) : Call → Call
  | .removeElement id => .removeElement (σ id)
  | .setProperty id key value => .setProperty (σ id) key value
  | .setCollapsedList id command listVariable => .setCollapsedList (σ id) command listVariable
  | .setTrigger id kind target value => .setTrigger (σ id) kind target value
  | .pointerDown id p resize => .pointerDown (σ id) p resize
  | .tooltip id => .tooltip (σ id)
  | c => c

/-- The answer with other names for elements. -/
def Answer.rename (σ : ElementId → ElementId) : Answer → Answer
  | .id i => .id (σ i)
  | .elements es => .elements (es.map (·.rename σ))
  | .tooltips ts => .tooltips (ts.map fun t => (σ t.1, t.2))
  | .findings ds => .findings (ds.map (·.rename σ))
  | answer => answer

/-- The editor with other names for its elements, and with another next number. -/
def rename (σ : ElementId → ElementId) (m : Nat) (ed : Editor) : Editor where
  session := ed.session.rename σ
  gesture := ed.gesture.map (·.rename σ)
  next := m

variable {ed : Editor} {a : Action}

/-! ### What a call does -/

lemma beginGesture_rename {s : Session} (hσ : Function.Injective σ) (id : ElementId)
    (kind : GestureKind) (p : Position) :
    (s.rename σ).beginGesture (σ id) kind p
      = match s.beginGesture id kind p with
        | .ok g => .ok (g.rename σ)
        | .error e => .error (e.rename σ) := by
  unfold Session.beginGesture Session.element
  rw [Session.element?_rename hσ]
  cases s.element? id <;> rfl

lemma action?_rename (c : Call) :
    (c.rename σ).action? (ed.rename σ m) = (c.action? ed).map (·.rename σ) := by
  cases c with
  | setProperty id key value =>
    simp [Call.rename, Call.action?, Option.map_map, Function.comp_def, Action.rename]
  | setTrigger id kind target value =>
    simp [Call.rename, Call.action?, Option.map_map, Function.comp_def, Action.rename]
  | pointerMove p =>
    simp [Call.rename, Call.action?, rename, Option.map_map, Function.comp_def, Action.rename]
  | _ => rfl

lemma gesture?_rename (hσ : Function.Injective σ) (c : Call) :
    (c.rename σ).gesture? (ed.rename σ m) = (c.gesture? ed).map (·.rename σ) := by
  cases c with
  | removeElement id =>
    cases h : ed.gesture with
    | none => simp [Call.rename, Call.gesture?, Call.releases, rename, h]
    | some g =>
      by_cases hown : g.element = id
      · simp [Call.rename, Call.gesture?, Call.releases, rename, Gesture.rename, h, hown]
      · simp [Call.rename, Call.gesture?, Call.releases, rename, Gesture.rename, h, hown,
          hσ.eq_iff]
  | pointerDown id p resize =>
    simp only [Call.rename, Call.gesture?, rename, beginGesture_rename hσ]
    cases ed.session.beginGesture id (if resize then .resize else .drag) p <;> rfl
  | _ => rfl

lemma proceed_rename (hs : ed.session.Consistent) (hσ : Renumbers σ ed.next m)
    (a : Option Action) : ∃ k, (ed.proceed a).next = ed.next + k ∧
      (ed.rename σ m).proceed (a.map (·.rename σ)) = (ed.proceed a).rename σ (m + k) := by
  cases a with
  | none => exact ⟨0, rfl, rfl⟩
  | some a =>
    refine ⟨(ed.session.created a).length, Session.after_snd hs ed.next a, ?_⟩
    have hperform := Session.perform_rename hs hσ a
    simp only [Option.map_some, proceed, rename, Session.after, hperform]
    rcases ed.session.perform ed.next a with ⟨_ | ⟨o, s⟩, i⟩ <;> rfl

/-! ### Answers -/

lemma act_fst_rename (hs : ed.session.Consistent) (hσ : Renumbers σ ed.next m) (a : Action) :
    ((ed.rename σ m).act (a.rename σ)).1 = (ed.act a).1 := by
  have hperform := Session.perform_rename hs hσ a
  simp only [act, rename, hperform]
  rcases ed.session.perform ed.next a with ⟨_ | ⟨o, s⟩, i⟩ <;> rfl

lemma ask_fst_rename (hs : ed.session.Consistent) (hσ : Renumbers σ ed.next m) (a : Action) :
    ((ed.rename σ m).ask (a.rename σ)).1 = (ed.ask a).1 := by
  have hperform := Session.perform_rename hs hσ a
  simp only [ask, rename, hperform]
  rcases ed.session.perform ed.next a with ⟨_ | ⟨_ | _ | _ | _, s⟩, i⟩ <;> rfl

lemma tryEdit_fst_rename (hs : ed.session.Consistent) (hσ : Renumbers σ ed.next m)
    (id : ElementId) (edit : Option Edit) :
    ((ed.rename σ m).tryEdit (σ id).text edit).1 = (ed.tryEdit id.text edit).1 := by
  cases edit with
  | none => rfl
  | some edit => exact act_fst_rename hs hσ (.edit id edit)

lemma tooltip?_rename {s : Session} (hσ : Function.Injective σ) (id : ElementId) :
    (s.rename σ).tooltip? (σ id) = s.tooltip? id := by
  rw [Session.tooltip?, Session.interpolation?, Session.element?_rename hσ, Option.map_map]
  rfl

lemma hovers_rename : (ed.rename σ m).hovers = ed.hovers.map fun t => (σ t.1, t.2) := by
  simp [hovers, rename, Session.previews, List.filterMap_map, List.map_filterMap,
    List.filter_map, Function.comp_def, Option.map_map]

/-- The answer under other names is the answer, under other names. -/
lemma call_fst_rename (hs : ed.session.Consistent) (hσ : Renumbers σ ed.next m) (c : Call) :
    ((ed.rename σ m).call (c.rename σ)).1 = (ed.call c).1.rename σ := by
  have hflag (a : Action) := congrArg Answer.flag (act_fst_rename hs hσ a)
  have hs' : ed.release.session.Consistent := hs
  have hreleased (a : Action) := congrArg Answer.flag (act_fst_rename hs' hσ a)
  cases c with
  | switchScene name => exact hreleased (.switchTo name)
  | renameScene name => exact hflag (.renameScene name)
  | duplicateScene name => exact hreleased (.duplicateScene name)
  | deleteScene => exact hreleased .deleteScene
  | addVariable name => exact hflag (.addVariable name)
  | editVariable name value => exact hflag (.editVariable name value)
  | renameVariable old new => exact hflag (.renameVariable old new)
  | deleteVariable name => exact hflag (.deleteVariable name)
  | importText text => exact hreleased (.importText text)
  | createElement tag p =>
    have hid : ((ed.session.rename σ).newElement m (.ofTag tag) p).id
        = σ (ed.session.newElement ed.next (.ofTag tag) p).id := by
      rw [Session.newElement_id, Session.newElement_id, hσ.zero]
    exact congrArg Answer.id hid
  | removeElement id =>
    have hremove := act_fst_rename hs hσ (.removeElement id)
    rw [← removeElement_fst] at hremove
    exact congrArg Answer.flag ((removeElement_fst _ (σ id)).trans hremove)
  | setProperty id key value =>
    exact congrArg Answer.flag (tryEdit_fst_rename hs hσ id (propertyEdit key value))
  | setCollapsedList id command listVariable =>
    exact congrArg Answer.flag
      (tryEdit_fst_rename hs hσ id (some (.collapsedList command listVariable)))
  | setTrigger id kind target value =>
    exact congrArg Answer.flag (tryEdit_fst_rename hs hσ id (triggerEdit kind target value))
  | pointerDown id p resize =>
    refine congrArg Answer.flag ?_
    simp only [rename, beginGesture_rename hσ.injective]
    cases ed.session.beginGesture ⟨id.text⟩ (if resize then .resize else .drag) p <;> rfl
  | pointerMove p =>
    refine congrArg Answer.flag ?_
    cases h : ed.gesture with
    | none => simp [rename, h]
    | some g =>
      have hrenamed : (ed.rename σ m).gesture = some (g.rename σ) := by simp [rename, h]
      simp only [hrenamed]
      exact act_fst_rename hs hσ (.updateGesture g p)
  | addScene => exact congrArg Answer.text (ask_fst_rename hs' hσ .addScene)
  | exportText => exact congrArg Answer.text (ask_fst_rename hs hσ .exportText)
  | sceneNames =>
    refine congrArg Answer.text ?_
    simp [sceneNamesText, rename]
  | menu hours minutes =>
    refine congrArg Answer.text ?_
    simp [menuText, rename, Session.menuButtons]
  | tooltip id =>
    exact congrArg (fun t : Option String => Answer.text (t.getD ""))
      (tooltip?_rename hσ.injective id)
  | tooltips => exact congrArg Answer.tooltips hovers_rename
  | lint =>
    rw [lint_fst hs]
    refine (lint_fst (Session.consistent_rename hs)).trans ?_
    simp only [rename, Session.whole_rename, Project.lint_rename, Answer.rename]
  | _ => rfl

/-! ### Runs -/

/-- A call under other names gives what it gives, under other names. -/
theorem call_rename (hs : ed.session.Consistent) (hσ : Renumbers σ ed.next m) (c : Call) :
    ∃ k, (ed.call c).2.next = ed.next + k ∧
      (ed.rename σ m).call (c.rename σ)
        = ((ed.call c).1.rename σ, (ed.call c).2.rename σ (m + k)) := by
  have hs' : ({ ed with gesture := c.gesture? ed } : Editor).session.Consistent := hs
  obtain ⟨k, hnext, hproceed⟩ := proceed_rename hs' hσ (c.action? ed)
  refine ⟨k, by rw [call_snd, hnext], Prod.ext (call_fst_rename hs hσ c) ?_⟩
  rw [call_snd, call_snd, action?_rename, gesture?_rename hσ.injective]
  exact hproceed

/-- Whatever a page asks of its editor, it gets the same answers under other names. -/
theorem run_rename (h : Reachable ed) (hσ : Renumbers σ ed.next m) (cs : List Call) :
    ((ed.rename σ m).run (cs.map (·.rename σ))).1 = (ed.run cs).1.map (·.rename σ) := by
  induction cs generalizing ed m with
  | nil => rfl
  | cons c cs ih =>
    obtain ⟨k, hnext, hcall⟩ := call_rename h.session.consistent hσ c
    have hrest := ih (h.call c) (hnext ▸ hσ.add k)
    simp only [List.map_cons, run, hcall, hrest]

end Editor

end Storyboard
