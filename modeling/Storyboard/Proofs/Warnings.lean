import Storyboard.CommandLine.Command
import Storyboard.Proofs.Reference
import Storyboard.Proofs.SceneTable
import Storyboard.Proofs.Variables

/-!
# What lint reports

Lint warns of every trigger and of every reference in a text whose target is not there, and of
nothing else, and it tells which scenes are empty. So there is no warning where everything
resolves, and with warnings denied the command fails where something does not.
-/

namespace Storyboard

open Reference

/-- Every entry of a list brings some entries of another list, one after the other. -/
def Brings {α β : Type} (R : α → List β → Prop) (xs : List α) (ys : List β) : Prop :=
  ∃ parts, List.Forall₂ R xs parts ∧ ys = parts.flatten

lemma brings_flatMap {α β : Type} {R : α → List β → Prop} {f : α → List β} {xs : List α}
    (h : ∀ x ∈ xs, R x (f x)) : Brings R xs (xs.flatMap f) := by
  refine ⟨xs.map f, ?_, List.flatMap_def⟩
  exact List.forall₂_map_right_iff.mpr (List.forall₂_same.mpr h)

namespace Project

variable (p : Project)

/-- The elements of all scenes in order, each with the name of its scene. -/
def placed : List (String × Element) :=
  p.scenes.scenes.flatMap fun s => s.elements.map fun e => (s.name, e)

/-- The scene or the variable that a trigger needs is not there. -/
inductive Dangles : Trigger → Finding → Prop
  | scene {target : String} (h : target ∉ p.scenes.names) :
      Dangles (.changeScene target) (.unknownScene target)
  | assignment {name value : String} (h : name ∉ p.vars.names) :
      Dangles (.setVariable name value) (.unknownVariable name)
  | result {path name : String} (hne : name ≠ "") (h : name ∉ p.vars.names) :
      Dangles (.externalApp path name) (.unknownReturn name)

/-- The names to which a text refers although there are no such variables, each once, in the order
of their first appearance. -/
structure Undefined (text : String) (names : List String) : Prop where
  mem : ∀ name, name ∈ names ↔ Refers text name ∧ name ∉ p.vars.names
  nodup : names.Nodup
  order : names.Pairwise fun a b => Before text.toList a.toList b.toList

/-- The warning of the trigger of an element in a scene, if there is one. -/
inductive TriggerWarning : String × Element → List Diagnostic → Prop
  | warning {scene : String} {e : Element} {t : Trigger} {f : Finding} (ht : e.trigger = some t)
      (hf : p.Dangles t f) : TriggerWarning (scene, e) [⟨scene, some e.id, f⟩]
  | nothing {scene : String} {e : Element} (h : ∀ t f, e.trigger = some t → ¬ p.Dangles t f) :
      TriggerWarning (scene, e) []

/-- The warnings of the text of an element in a scene, one for each name. -/
inductive TextWarnings : String × Element → List Diagnostic → Prop
  | names {scene : String} {e : Element} {names : List String} (h : p.Undefined e.text names) :
      TextWarnings (scene, e) (names.map fun name => ⟨scene, some e.id, .undefinedReference name⟩)

/-- The remark on a scene, if it is empty. -/
inductive EmptyRemark : Scene → List Diagnostic → Prop
  | empty {s : Scene} (h : s.elements = []) : EmptyRemark s [⟨s.name, none, .emptyScene⟩]
  | nothing {s : Scene} (h : s.elements ≠ []) : EmptyRemark s []

/-- Warnings of triggers, then warnings of texts, then remarks on empty scenes, each for everything
for which there is one and for nothing else. -/
structure Reports (triggers texts remarks : List Diagnostic) : Prop where
  warns_triggers : Brings p.TriggerWarning p.placed triggers
  warns_texts : Brings p.TextWarnings p.placed texts
  remarks_empty : Brings EmptyRemark p.scenes.scenes remarks
  warning : ∀ d ∈ triggers ++ texts, d.severity = .warning
  info : ∀ d ∈ remarks, d.severity = .info

/-- Every scene and variable that a trigger needs is there, and every variable to which a text
refers. -/
structure Resolved : Prop where
  scenes : p.scenes.Forall fun e => ∀ target,
    e.trigger = some (.changeScene target) → target ∈ p.scenes.names
  assignments : p.scenes.Forall fun e => ∀ name value,
    e.trigger = some (.setVariable name value) → name ∈ p.vars.names
  results : p.scenes.Forall fun e => ∀ path name,
    e.trigger = some (.externalApp path name) → name ≠ "" → name ∈ p.vars.names
  texts : p.scenes.Forall fun e => ∀ name, Refers e.text name → name ∈ p.vars.names

variable {p} {t : Trigger} {f : Finding} {rule : Element → List Finding} {d : Diagnostic}

/-! ### Single rules -/

lemma triggerFinding_eq_some : p.triggerFinding t = some f ↔ p.Dangles t f := by
  constructor
  · intro h
    cases t with
    | changeScene target =>
      simp only [triggerFinding, SceneTable.contains_iff, Option.ite_none_left_eq_some,
        Option.some.injEq] at h
      obtain ⟨hn, rfl⟩ := h
      exact .scene hn
    | setVariable name value =>
      simp only [triggerFinding, VariableStore.contains_iff, Option.ite_none_left_eq_some,
        Option.some.injEq] at h
      obtain ⟨hn, rfl⟩ := h
      exact .assignment hn
    | externalApp path name =>
      simp only [triggerFinding, VariableStore.contains_iff, Option.ite_none_left_eq_some,
        Option.some.injEq, not_or] at h
      obtain ⟨⟨hne, hn⟩, rfl⟩ := h
      exact .result hne hn
    | playVideo path => simp [triggerFinding] at h
    | playImage path => simp [triggerFinding] at h
  · rintro (h | h | ⟨hne, h⟩)
    · simp [triggerFinding, h]
    · simp [triggerFinding, h]
    · simp [triggerFinding, hne, h]

/-- The names that are found in a text are those that no variable has. -/
lemma undefined_filter (p : Project) (text : String) :
    p.Undefined text ((names text).filter fun name => !p.vars.contains name) := by
  have horder := (pairwise_names text).filter fun name => !p.vars.contains name
  refine ⟨fun name => ?_, ?_, horder⟩
  · simp [mem_names]
  · refine horder.imp fun h heq => h.ne ?_
    rw [heq]

lemma textFindings_eq_nil {text : String} :
    p.textFindings text = [] ↔ ∀ name, Refers text name → name ∈ p.vars.names := by
  simp [textFindings, mem_names]

/-! ### All elements -/

lemma elementDiagnostics_eq (p : Project) (rule : Element → List Finding) :
    p.elementDiagnostics rule
      = p.placed.flatMap fun x => (rule x.2).map fun f => ⟨x.1, some x.2.id, f⟩ := by
  simp only [elementDiagnostics, placed, List.flatMap_assoc, List.flatMap_map]

/-- Nothing is found if no element has anything to find. -/
lemma elementDiagnostics_eq_nil :
    p.elementDiagnostics rule = [] ↔ p.scenes.Forall fun e => rule e = [] := by
  simp [elementDiagnostics, SceneTable.Forall]

lemma exists_finding (hd : d ∈ p.elementDiagnostics rule) : ∃ e, d.finding ∈ rule e := by
  rw [elementDiagnostics_eq] at hd
  obtain ⟨x, -, hx⟩ := List.mem_flatMap.mp hd
  obtain ⟨f, hf, rfl⟩ := List.mem_map.mp hx
  exact ⟨x.2, hf⟩

lemma severity_lintTriggers : ∀ d ∈ p.lintTriggers, d.severity = .warning := by
  intro d hd
  obtain ⟨e, he⟩ := exists_finding hd
  rw [Option.mem_toList, Option.bind_eq_some_iff] at he
  obtain ⟨t, -, ht⟩ := he
  obtain ⟨scene, element, finding⟩ := d
  cases triggerFinding_eq_some.mp ht <;> rfl

lemma severity_lintTexts : ∀ d ∈ p.lintTexts, d.severity = .warning := by
  intro d hd
  obtain ⟨e, he⟩ := exists_finding hd
  obtain ⟨name, -, hname⟩ := List.mem_map.mp he
  rw [Diagnostic.severity, ← hname]
  rfl

lemma severity_lintScenes : ∀ d ∈ p.lintScenes, d.severity = .info := by
  intro d hd
  obtain ⟨s, -, rfl⟩ := List.mem_map.mp hd
  rfl

lemma lintScenes_eq (p : Project) : p.lintScenes = p.scenes.scenes.flatMap fun s =>
    if s.elements = [] then [⟨s.name, none, .emptyScene⟩] else [] := by
  rw [lintScenes]
  induction p.scenes.scenes with
  | nil => rfl
  | cons s ss ih =>
    rw [List.flatMap_cons, ← ih]
    by_cases h : s.elements = [] <;> simp [h]

/-- The three parts of what lint finds. -/
lemma reports_lint (p : Project) : p.Reports p.lintTriggers p.lintTexts p.lintScenes where
  warns_triggers := by
    rw [lintTriggers, elementDiagnostics_eq]
    refine brings_flatMap ?_
    rintro ⟨scene, e⟩ -
    cases hf : e.trigger.bind p.triggerFinding with
    | none =>
      refine .nothing fun t f ht hdangles => ?_
      rw [ht, Option.bind_some, triggerFinding_eq_some.mpr hdangles] at hf
      contradiction
    | some f =>
      obtain ⟨t, ht, hf⟩ := Option.bind_eq_some_iff.mp hf
      exact .warning ht (triggerFinding_eq_some.mp hf)
  warns_texts := by
    rw [lintTexts, elementDiagnostics_eq]
    refine brings_flatMap ?_
    rintro ⟨scene, e⟩ -
    rw [textFindings, List.map_map]
    exact .names (undefined_filter p e.text)
  remarks_empty := by
    rw [lintScenes_eq]
    refine brings_flatMap fun s _ => ?_
    split
    · exact .empty ‹_›
    · exact .nothing ‹_›
  warning := List.forall_mem_append.mpr ⟨severity_lintTriggers, severity_lintTexts⟩
  info := severity_lintScenes

/-! ### Projects without warnings -/

lemma triggerFinding_eq_none : p.triggerFinding t = none ↔ ∀ f, ¬ p.Dangles t f := by
  rw [Option.eq_none_iff_forall_ne_some]
  exact forall_congr' fun f => not_congr triggerFinding_eq_some

/-- No trigger dangles where every target is there. -/
lemma Resolved.not_dangles (h : p.Resolved) {s : Scene} (hs : s ∈ p.scenes.scenes) {e : Element}
    (he : e ∈ s.elements) (ht : e.trigger = some t) : ¬ p.Dangles t f := by
  intro hdangles
  cases hdangles with
  | scene hn => exact hn (h.scenes s hs e he _ ht)
  | assignment hn => exact hn (h.assignments s hs e he _ _ ht)
  | result hne hn => exact hn (h.results s hs e he _ _ ht hne)

lemma resolved_iff : p.Resolved ↔ p.lintTriggers = [] ∧ p.lintTexts = [] := by
  simp only [lintTriggers, lintTexts, elementDiagnostics_eq_nil, Option.toList_eq_nil_iff,
    Option.bind_eq_none_iff, triggerFinding_eq_none, textFindings_eq_nil]
  constructor
  · intro h
    exact ⟨fun s hs e he t ht f => h.not_dangles hs he ht, h.texts⟩
  · rintro ⟨htriggers, htexts⟩
    refine ⟨fun s hs e he target ht => ?_, fun s hs e he name value ht => ?_,
      fun s hs e he path name ht hne => ?_, htexts⟩
    · exact not_not.mp fun hn => htriggers s hs e he _ ht _ (.scene hn)
    · exact not_not.mp fun hn => htriggers s hs e he _ ht _ (.assignment hn)
    · exact not_not.mp fun hn => htriggers s hs e he _ ht _ (.result hne hn)

/-- There is no warning where everything resolves, and only there. -/
lemma no_warning_iff : (∀ d ∈ p.lint, d.severity ≠ .warning) ↔ p.Resolved := by
  have hscenes : ∀ d ∈ p.lintScenes, d.severity ≠ .warning := by
    intro d hd
    rw [severity_lintScenes d hd]
    decide
  have hnil {ds : List Diagnostic} (hds : ∀ d ∈ ds, d.severity = .warning) :
      (∀ d ∈ ds, d.severity ≠ .warning) ↔ ds = [] := by
    rw [List.eq_nil_iff_forall_not_mem]
    exact forall_congr' fun d => ⟨fun h hd => h hd (hds d hd), fun h hd => absurd hd h⟩
  rw [lint, List.forall_mem_append, List.forall_mem_append, hnil severity_lintTriggers,
    hnil severity_lintTexts, and_iff_left hscenes, resolved_iff]

/-! ### The command -/

/-- With warnings denied, the report is a failure where something does not resolve. -/
lemma code_lintReport (p : Project) (path : String) :
    (p.lintReport path true).code ≠ 0 ↔ ¬ p.Resolved := by
  have hcount : 0 < (p.lint.filter (·.isWarning)).length ↔ ¬ p.Resolved := by
    rw [← no_warning_iff, List.length_pos_iff, ne_eq, List.filter_eq_nil_iff]
    simp only [Diagnostic.isWarning, decide_eq_true_eq, ne_eq]
  rw [← hcount, lintReport]
  by_cases h : 0 < (p.lint.filter (·.isWarning)).length
  · simp [h, Report.failure]
  · simp [h]

end Project

variable {σ : Type} {fs : FileAccess (StateM σ)} {t t' : σ} {p : Project} {path text : String}

/-- A report on a file that can be read is the report on its project. -/
lemma Command.run_onProject (hread : (fs.read path).run t = (some text, t'))
    (hp : (Project.ofText {} 0 text).1 = .ok p) (report : Project → Report) :
    (onProject fs path report).run t = (report p, t') := by
  have hload : (Project.load fs {} 0 path).run t
      = ((.ok p, (Project.ofText {} 0 text).2), t') := by
    rw [Project.load, StateT.run_bind, hread]
    change (((Project.ofText {} 0 text).1.mapError StorageError.document, _), t') = _
    rw [hp]
    rfl
  rw [onProject, StateT.run_bind, hload]
  rfl

/-- Lint gives, scene by scene and element by element, a warning for each trigger whose target is
not there, then a warning for each name to which a text refers and which is no variable, each name
once and in the order of first appearance, then a remark on each scene without elements. So it warns
of nothing where everything resolves and only there, and the command that denies warnings fails on
a document that can be read where something does not. -/
theorem lint_exact (p : Project) :
    (∃ triggers texts remarks, p.lint = triggers ++ texts ++ remarks ∧
        p.Reports triggers texts remarks) ∧
      ((∀ d ∈ p.lint, d.severity ≠ .warning) ↔ p.Resolved) ∧
      ∀ {σ : Type} (fs : FileAccess (StateM σ)) (t t' : σ) (words : List String)
        (path text : String), CommandLine.parse? words = some (.lint path true) →
          (fs.read path).run t = (some text, t') → (Project.ofText {} 0 text).1 = .ok p →
            (((CommandLine.run fs words).run t).1.code ≠ 0 ↔ ¬ p.Resolved) := by
  refine ⟨⟨_, _, _, rfl, p.reports_lint⟩, Project.no_warning_iff, ?_⟩
  intro σ fs t t' words path text hparse hread hp
  have hrun : (CommandLine.run fs words).run t = (p.lintReport path true, t') := by
    rw [CommandLine.run, hparse]
    exact Command.run_onProject hread hp _
  rw [hrun]
  exact p.code_lintReport path

/-- A label that refers to two names, to one of them twice, and triggers a scene that is not there,
in a file next to an empty scene. -/
theorem lint_exact_dangling_label :
    let text := "\x7b\"scenes\":[\x7b\"name\":\"A\",\"elements\":[\x7b\"type\":\"label\","
      ++ "\"text\":\"$b$1$a.$b\",\"trigger\":\"change_scene\",\"sceneChange\":\"C\"\x7d]\x7d,"
      ++ "\x7b\"name\":\"B\"\x7d]\x7d"
    let fs : FileAccess (StateM Unit) :=
      { read := fun path => pure (if path = "a.json" then some text else none)
        write := fun _ _ => pure false
        makeDirectory := fun _ => pure false }
    let words := ["lint", "--deny-warnings", "a.json"]
    CommandLine.parse? words = some (.lint "a.json" true) ∧
      (fs.read "a.json").run () = (some text, ()) ∧
      ∃ p, (Project.ofText {} 0 text).1 = .ok p ∧
        p.lint = [⟨"A", some (.numbered "label" 0), .unknownScene "C"⟩,
          ⟨"A", some (.numbered "label" 0), .undefinedReference "b"⟩,
          ⟨"A", some (.numbered "label" 0), .undefinedReference "a"⟩, ⟨"B", none, .emptyScene⟩] ∧
        ¬ p.Resolved ∧ ((CommandLine.run fs words).run ()).1.code ≠ 0 := by
  intro text fs words
  have hparse : CommandLine.parse? words = some (.lint "a.json" true) := by decide +kernel
  have hread : (fs.read "a.json").run () = (some text, ()) := rfl
  have hlint : (Project.ofText {} 0 text).1.toOption.map Project.lint
      = some [⟨"A", some (.numbered "label" 0), .unknownScene "C"⟩,
        ⟨"A", some (.numbered "label" 0), .undefinedReference "b"⟩,
        ⟨"A", some (.numbered "label" 0), .undefinedReference "a"⟩, ⟨"B", none, .emptyScene⟩] := by
    decide +kernel
  cases hp : (Project.ofText {} 0 text).1 with
  | error e => simp [hp, Except.toOption] at hlint
  | ok p =>
    rw [hp] at hlint
    have hfound := Option.some.inj hlint
    obtain ⟨-, hresolved, hcode⟩ := lint_exact p
    have hdangling : ¬ p.Resolved := by
      rw [← hresolved, hfound]
      decide
    exact ⟨hparse, hread, p, rfl, hfound, hdangling,
      (hcode fs () () words "a.json" text hparse hread hp).mpr hdangling⟩

end Storyboard
