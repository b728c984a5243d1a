import Storyboard.Lint
import Storyboard.Proofs.SceneTable

/-!
# Findings by their places

A diagnostic names its element. What it has found can be told without the name, by the place of the
element in its scene, and so the findings of two projects can be compared whose elements have
different names. They are the same when the elements of one scene after the other have the same
triggers and as much to find in their texts. Elements of some kinds show no text; where only the
texts that are shown agree, so do the findings but for those in the texts that are not.
-/

namespace Storyboard

/-- Whether the finding is about a text. -/
def Finding.isInText : Finding → Bool
  | .undefinedReference _ => true
  | _ => false

/-! ### Places -/

/-- The findings about the elements of some scenes, each with the scene and the place in it. -/
def atPlaces (found : List (String × List (List Finding))) :
    List (String × Option Nat × Finding) :=
  found.flatMap fun s => s.2.zipIdx.flatMap fun x => x.1.map fun f => (s.1, some x.2, f)

/-- The findings about the scenes in which there is nothing. -/
def atEmpty (found : List (String × List (List Finding))) : List (String × Option Nat × Finding) :=
  (found.filter (·.2.isEmpty)).map fun s => (s.1, none, .emptyScene)

namespace Project

variable (p : Project)

/-- What a diagnostic has found, with the scene and the place of the element in it. -/
def place (d : Diagnostic) : String × Option Nat × Finding :=
  (d.scene, d.element.bind fun id => ((p.scenes.elements d.scene).map (·.id)).idxOf? id, d.finding)

/-- What lint finds, by the places. -/
def findings : List (String × Option Nat × Finding) :=
  p.lint.map p.place

/-- Whether the finding is about a text that its element does not show. -/
def hides (x : String × Option Nat × Finding) : Bool :=
  x.2.2.isInText &&
    (x.2.1.bind fun i => (p.scenes.elements x.1)[i]?).any fun e => !e.kind.hasText

/-- What lint finds, by the places, but in texts that are not shown. -/
def shownFindings : List (String × Option Nat × Finding) :=
  p.findings.filter fun x => !p.hides x

/-- What is wrong with the text that an element shows. -/
def shownTextFindings (e : Element) : List Finding :=
  if e.kind.hasText then p.textFindings e.text else []

/-- What a rule finds in the elements, scene by scene. -/
def found (rule : Element → List Finding) : List (String × List (List Finding)) :=
  p.scenes.scenes.map fun s => (s.name, s.elements.map rule)

/-- The elements have the same trigger, and as much is found in their texts. -/
def FindsAlike (e e' : Element) : Prop :=
  e'.trigger = e.trigger ∧ p.textFindings e'.text = p.textFindings e.text

/-- The elements have the same trigger, and as much is found in the texts that they show. -/
def ShowsAlike (e e' : Element) : Prop :=
  e'.trigger = e.trigger ∧ p.shownTextFindings e' = p.shownTextFindings e

variable {p}

@[simp] lemma textFindings_empty : p.textFindings "" = [] := rfl

/-- A name that occurs once is at the place of its element. -/
lemma idxOf?_id {es : List Element} (h : (es.map (·.id)).Nodup) {x : Element × Nat}
    (hx : x ∈ es.zipIdx) : (es.map (·.id)).idxOf? x.1.id = some x.2 := by
  obtain ⟨hi, he⟩ := List.mem_zipIdx' hx
  rw [List.idxOf?_eq_some_iff]
  refine ⟨by simpa using hi, by simp [he], ?_⟩
  intro j hj heq
  have hi' : x.2 < (es.map (·.id)).length := by simpa using hi
  refine List.pairwise_iff_getElem.mp h j x.2 (Nat.lt_trans hj hi') hi' hj ?_
  simpa [he] using heq

lemma elementDiagnostics_place (hnames : p.scenes.names.Nodup) (hids : p.scenes.ids.Nodup)
    (rule : Element → List Finding) :
    (p.elementDiagnostics rule).map p.place = atPlaces (p.found rule) := by
  simp only [elementDiagnostics, atPlaces, found, List.map_flatMap, List.flatMap_map, List.map_map]
  refine List.flatMap_congr fun s hs => ?_
  have hscene : (s.elements.map (·.id)).Nodup := (List.nodup_flatMap.mp hids).1 s hs
  have helements : p.scenes.elements s.name = s.elements := SceneTable.elements_of_mem hnames hs
  conv_lhs => rw [← List.zipIdx_map_fst 0 s.elements]
  rw [List.flatMap_map, List.zipIdx_map, List.flatMap_map]
  refine List.flatMap_congr fun x hx => ?_
  simp [place, helements, idxOf?_id hscene hx, Function.comp_def]

lemma lintScenes_place (rule : Element → List Finding) :
    p.lintScenes.map p.place = atEmpty (p.found rule) := by
  simp [lintScenes, atEmpty, found, place, List.filter_map, Function.comp_def]

/-- The findings of a project whose names differ, by their places. -/
lemma findings_eq (hnames : p.scenes.names.Nodup) (hids : p.scenes.ids.Nodup) :
    p.findings = atPlaces (p.found fun e => (e.trigger.bind p.triggerFinding).toList)
      ++ atPlaces (p.found fun e => p.textFindings e.text)
      ++ atEmpty (p.found fun e => p.textFindings e.text) := by
  rw [findings, lint, List.map_append, List.map_append, lintTriggers, lintTexts,
    elementDiagnostics_place hnames hids, elementDiagnostics_place hnames hids, lintScenes_place]

/-- A choice among the findings about elements is a choice in every element. -/
lemma filter_atPlaces {rule rule' : Element → List Finding}
    {keep : String × Option Nat × Finding → Bool}
    (h : ∀ s ∈ p.scenes.scenes, ∀ x ∈ s.elements.zipIdx,
      (rule x.1).filter (fun f => keep (s.name, some x.2, f)) = rule' x.1) :
    (atPlaces (p.found rule)).filter keep = atPlaces (p.found rule') := by
  simp only [atPlaces, found, List.filter_flatMap, List.flatMap_map, List.zipIdx_map]
  refine List.flatMap_congr fun s hs => List.flatMap_congr fun x hx => ?_
  rw [List.filter_map]
  exact congrArg (List.map _) (h s hs x hx)

/-- A finding about an element is left out if it is about a text and the element shows none. -/
lemma hides_place (hnames : p.scenes.names.Nodup) {s : Scene} (hs : s ∈ p.scenes.scenes)
    {x : Element × Nat} (hx : x ∈ s.elements.zipIdx) (f : Finding) :
    p.hides (s.name, some x.2, f) = (f.isInText && !x.1.kind.hasText) := by
  obtain ⟨hi, he⟩ := List.mem_zipIdx' hx
  simp [hides, SceneTable.elements_of_mem hnames hs, hi, he]

lemma isInText_triggerFinding {t : Trigger} {f : Finding} (h : p.triggerFinding t = some f) :
    f.isInText = false := by
  cases t <;> grind [triggerFinding, Finding.isInText]

lemma isInText_textFindings {text : String} {f : Finding} (h : f ∈ p.textFindings text) :
    f.isInText = true := by
  obtain ⟨name, -, rfl⟩ := List.mem_map.mp h
  rfl

/-- The findings but in texts that are not shown, of a project whose names differ. -/
lemma shownFindings_eq (hnames : p.scenes.names.Nodup) (hids : p.scenes.ids.Nodup) :
    p.shownFindings = atPlaces (p.found fun e => (e.trigger.bind p.triggerFinding).toList)
      ++ atPlaces (p.found p.shownTextFindings) ++ atEmpty (p.found p.shownTextFindings) := by
  have htriggers : (atPlaces (p.found fun e => (e.trigger.bind p.triggerFinding).toList)).filter
      (fun x => !p.hides x)
        = atPlaces (p.found fun e => (e.trigger.bind p.triggerFinding).toList) := by
    refine filter_atPlaces fun s hs x hx => List.filter_eq_self.mpr fun f hf => ?_
    obtain ⟨t, -, ht⟩ := Option.bind_eq_some_iff.mp (Option.mem_toList.mp hf)
    simp [hides_place hnames hs hx, isInText_triggerFinding ht]
  have htexts : (atPlaces (p.found fun e => p.textFindings e.text)).filter (fun x => !p.hides x)
      = atPlaces (p.found p.shownTextFindings) := by
    refine filter_atPlaces fun s hs x hx => ?_
    unfold shownTextFindings
    cases hshown : x.1.kind.hasText with
    | true => exact List.filter_eq_self.mpr fun f _ => by simp [hides_place hnames hs hx, hshown]
    | false =>
      refine List.filter_eq_nil_iff.mpr fun f hf => ?_
      simp [hides_place hnames hs hx, hshown, isInText_textFindings hf]
  have hempty : (atEmpty (p.found fun e => p.textFindings e.text)).filter (fun x => !p.hides x)
      = atEmpty (p.found p.shownTextFindings) := by
    rw [← lintScenes_place p.shownTextFindings, ← lintScenes_place fun e => p.textFindings e.text]
    refine List.filter_eq_self.mpr fun x hx => ?_
    obtain ⟨d, hd, rfl⟩ := List.mem_map.mp hx
    obtain ⟨s, -, rfl⟩ := List.mem_map.mp hd
    rfl
  rw [shownFindings, findings_eq hnames hids, List.filter_append, List.filter_append, htriggers,
    htexts, hempty]

/-! ### Projects that have the same findings -/

section Congruence

variable {q : Project}

lemma triggerFinding_congr (hvars : q.vars = p.vars) (hnames : q.scenes.names = p.scenes.names) :
    q.triggerFinding = p.triggerFinding := by
  funext t
  cases t <;> simp [triggerFinding, SceneTable.contains, hnames, hvars]

lemma textFindings_congr (hvars : q.vars = p.vars) : q.textFindings = p.textFindings := by
  funext text
  simp [textFindings, hvars]

lemma shownTextFindings_congr (hvars : q.vars = p.vars) :
    q.shownTextFindings = p.shownTextFindings := by
  funext e
  simp [shownTextFindings, textFindings_congr hvars]

/-- In triggers that are the same a rule finds the same. -/
lemma found_trigger_congr (h : p.scenes.Alike (fun e e' => e'.trigger = e.trigger) q.scenes)
    (rule : Trigger → Option Finding) :
    q.found (fun e => (e.trigger.bind rule).toList)
      = p.found fun e => (e.trigger.bind rule).toList :=
  SceneTable.Alike.map_eq (h.imp fun e e' he => by rw [he])

/-- Projects with the same variables in whose elements the same is found have the same findings. -/
theorem findings_congr (hvars : q.vars = p.vars) (h : p.scenes.Alike p.FindsAlike q.scenes)
    (hp : p.scenes.names.Nodup ∧ p.scenes.ids.Nodup) (hq : q.scenes.ids.Nodup) :
    q.findings = p.findings := by
  have hnames := h.names_eq
  have htriggers := found_trigger_congr (h.imp fun _ _ he => he.1) p.triggerFinding
  have htexts : q.found (fun e => p.textFindings e.text) = p.found fun e => p.textFindings e.text :=
    SceneTable.Alike.map_eq (h.imp fun e e' he => he.2)
  rw [findings_eq (hnames ▸ hp.1) hq, findings_eq hp.1 hp.2, triggerFinding_congr hvars hnames,
    textFindings_congr hvars, htriggers, htexts]

/-- If the same is found in the triggers and in the texts that are shown, the findings are the same
but for those in the other texts. -/
theorem shownFindings_congr (hvars : q.vars = p.vars) (h : p.scenes.Alike p.ShowsAlike q.scenes)
    (hp : p.scenes.names.Nodup ∧ p.scenes.ids.Nodup) (hq : q.scenes.ids.Nodup) :
    q.shownFindings = p.shownFindings := by
  have hnames := h.names_eq
  have htriggers := found_trigger_congr (h.imp fun _ _ he => he.1) p.triggerFinding
  have htexts : q.found p.shownTextFindings = p.found p.shownTextFindings :=
    SceneTable.Alike.map_eq (h.imp fun e e' he => he.2)
  rw [shownFindings_eq (hnames ▸ hp.1) hq, shownFindings_eq hp.1 hp.2,
    triggerFinding_congr hvars hnames, shownTextFindings_congr hvars, htriggers, htexts]

end Congruence

end Project

end Storyboard
