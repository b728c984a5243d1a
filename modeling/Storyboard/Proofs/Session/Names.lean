import Mathlib.Data.List.Perm.Subperm
import Storyboard.Proofs.Document.Numbering
import Storyboard.Proofs.Session.Edit
import Storyboard.Proofs.Session.Reachable

/-!
# Names of elements

The elements of the active scene are kept twice, and removing one finds it by its place in the live
copy and by its name in the stored one. Both copies show the same names because no name stands for
two elements: every name that an action takes is new, also beside those of documents that were
refused and those of elements that are gone.
-/

namespace Storyboard

open ElementId

namespace Session

variable {s s' : Session} {n m : Nat} {a : Action} {o : Outcome} {r : Registry}

/-- The names of all elements: the live ones, and the stored ones of the scenes that are not
active. -/
def elementIds (s : Session) : List ElementId :=
  s.live.map (·.id) ++ (s.project.scenes.drop s.current).ids

/-- The stems of the names that an action takes, in order. Of the actions that are refused only
reading a document takes any. -/
def created (s : Session) : Action → List String
  | .addElement kind _ => [kind.tag]
  | .addScene => if s.project.scenes.nextName ∈ s.project.scenes.names then [] else [Kind.menu.tag]
  | .duplicateScene name =>
    if name = "" ∨ name ∈ s.project.scenes.names then [] else s.live.map (·.kind.tag)
  | .reset => [Kind.menu.tag]
  | .importText text => Project.tagsOfText text
  | _ => []

/-- The stored elements of the active scene have the names and the tags of the live ones. -/
def Paired (s : Session) : Prop :=
  (s.project.scenes.elements s.current).map Element.mark = s.live.map Element.mark

/-! ### Which numbers are used up -/

lemma perform_snd (hs : s.Consistent) (n : Nat) (a : Action) :
    (s.perform n a).2 = n + (s.created a).length := by
  cases a with
  | addScene =>
    by_cases h : s.project.scenes.nextName ∈ s.project.scenes.names
    · have hnone := SceneTable.insert?_of_mem (names_whole (s := s) ▸ h) []
      simp [perform, addScene, snapshot_eq hs, hnone, created, h]
    · have hok := (addScene_eq_ok (n := n) hs).mpr ⟨_, rfl, h, rfl⟩
      simp [perform, hok, created, h]
  | duplicateScene name =>
    by_cases h : name ≠ "" ∧ name ∉ s.project.scenes.names
    · have hok := (duplicateScene_eq_ok (n := n) hs).mpr ⟨h, rfl⟩
      simp [perform, hok, created, h]
    · obtain ⟨hn, -⟩ | ⟨-, e, he⟩ := checkSceneName_cases s name
      · exact absurd hn h
      · have hrefused : name = "" ∨ name ∈ s.project.scenes.names := by tauto
        simp [perform, duplicateScene, he, bind, Except.bind, created, hrefused]
  | importText text => exact Project.ofText_snd s.canvas n text
  | _ => rfl

lemma after_snd (hs : s.Consistent) (n : Nat) (a : Action) :
    (s.after n a).2 = n + (s.created a).length := by
  rw [← perform_snd hs n a, after]
  split <;> simp [*]

/-! ### What a step does to the names -/

lemma newElement_id (n : Nat) (kind : Kind) (p : Position) :
    (s.newElement n kind p).id = numbered kind.tag n := by
  simp [newElement]

lemma ids_copies (n : Nat) (es : List Element) :
    (Element.copies n es).map (·.id) = numberedFrom n (es.map (·.kind.tag)) := by
  simp [Element.copies, numberedFrom, List.zipIdx_map, Function.comp_def]

lemma mark_editLive (id : ElementId) (edit : Edit) (es : List Element) :
    (s.editLive id edit es).map Element.mark = es.map Element.mark := by
  simp only [editLive, List.map_map]
  refine List.map_congr_left fun e _ => ?_
  simp only [Function.comp_apply]
  split
  · exact Edit.apply_mark _ _ edit
  · rfl

lemma ids_eq_of_mark {es es' : List Element} (h : es'.map Element.mark = es.map Element.mark) :
    es'.map (·.id) = es.map (·.id) := by
  have hfst := congrArg (List.map Prod.fst) h
  simpa [Function.comp_def, Element.mark] using hfst

lemma mem_elementIds {e : Element} (he : e ∈ s.live) : e.id ∈ s.elementIds :=
  List.mem_append_left _ (List.mem_map_of_mem he)

lemma elementIds_load (s : Session) (ht : s.project.scenes.Valid) {name : String}
    (h : name ∈ s.project.scenes.names) :
    (s.load name).elementIds.Perm s.project.scenes.ids :=
  (SceneTable.ids_perm ht.2 h).symm

/-- The stored elements have the names that the elements of the session have. -/
lemma Paired.ids_perm (hs : s.Consistent) (h : s.Paired) :
    s.project.scenes.ids.Perm s.elementIds := by
  have hperm := SceneTable.ids_perm hs.valid.2 hs.current_mem
  rwa [ids_eq_of_mark h] at hperm

/-- The names of a session are those of its project as it stands. -/
lemma ids_whole (hs : s.Consistent) : s.whole.scenes.ids.Perm s.elementIds := by
  have hperm := SceneTable.ids_perm (whole_valid hs).2 (names_whole (s := s) ▸ hs.current_mem)
  rw [elements_whole hs] at hperm
  rwa [whole, SceneTable.drop_modify] at hperm

/-- One scene more has its own names beside the others. -/
lemma elementIds_add (hs : s.Consistent) {name : String} (h : name ∉ s.project.scenes.names)
    (es : List Element) :
    ((s.withScenes (s.whole.scenes.add name es)).load name).elementIds.Perm
      (s.elementIds ++ es.map (·.id)) := by
  have hadd := hs.add h es
  have hload := elementIds_load (s.withScenes (s.whole.scenes.add name es)) hadd.valid
    hadd.current_mem
  refine hload.trans ?_
  simpa [withScenes] using (ids_whole hs).append_right _

/-- A project that is opened brings its own names and leaves none of the others. -/
lemma elementIds_replaceProject {p : Project} (h : p.scenes.Valid) :
    (s.replaceProject p).elementIds.Perm p.scenes.ids := by
  have hvalid := fit_valid h s.canvas
  have hload := elementIds_load { s with project := p.fit s.canvas } hvalid
    (SceneTable.first_mem hvalid)
  refine hload.trans ?_
  simp [Project.fit, SceneTable.fit, SceneTable.ids_mapElements fun e => e.fit_id _ _]

lemma elementIds_addElement (n : Nat) (kind : Kind) (p : Position) :
    (s.addElement n kind p).elementIds.Perm (s.elementIds ++ [numbered kind.tag n]) := by
  simp only [elementIds, addElement, SceneTable.drop_modify, List.map_append, List.map_cons,
    List.map_nil, newElement_id]
  rw [List.append_assoc, List.append_assoc]
  exact List.Perm.append_left _ List.perm_append_comm

lemma Paired.addElement (hs : s.Consistent) (h : s.Paired) (n : Nat) (kind : Kind) (p : Position) :
    (s.addElement n kind p).Paired := by
  simp only [Paired, Session.addElement, SceneTable.elements_modify hs.current_mem,
    List.map_append]
  exact congrArg (· ++ _) h

section Blank

variable (h : s.project.scenes = .initial) (hc : s.current = SceneTable.defaultName)
  (hl : s.live = [])

include h hc hl

lemma elementIds_blank : s.elementIds = [] := by
  simp [elementIds, h, hc, hl, SceneTable.initial, SceneTable.drop, SceneTable.ids]

lemma paired_blank : s.Paired := by
  simp [Paired, h, hc, hl, SceneTable.initial, SceneTable.elements, SceneTable.get?]

lemma elementIds_menu (n : Nat) :
    (s.addElement n .menu {}).elementIds.Perm (numberedFrom n [Kind.menu.tag]) := by
  have hmenu := elementIds_addElement (s := s) n .menu {}
  rwa [elementIds_blank h hc hl] at hmenu

lemma paired_menu (n : Nat) : (s.addElement n .menu {}).Paired :=
  (paired_blank h hc hl).addElement (consistent_blank h hc) n .menu {}

end Blank

/-- A step keeps some of the names and takes new ones. -/
lemma Step.elementIds (hs : s.Consistent) (h : Step s n a o s' m) :
    ∃ kept, kept.Subperm s.elementIds ∧
      s'.elementIds.Perm (kept ++ numberedFrom n (s.created a)) := by
  have all {ids taken : List ElementId} (h : ids.Perm (s.elementIds ++ taken)) :
      ∃ kept, kept.Subperm s.elementIds ∧ ids.Perm (kept ++ taken) :=
    ⟨s.elementIds, List.Subperm.refl _, h⟩
  have same {ids : List ElementId} (h : ids = s.elementIds) :
      ∃ kept, kept.Subperm s.elementIds ∧ ids.Perm (kept ++ numberedFrom n []) :=
    all (by simp [h])
  have hw : s.whole.scenes.Valid := whole_valid hs
  cases h with
  | addElement kind p => exact all (elementIds_addElement n kind p)
  | @removeElement id e h =>
    refine ⟨(s.withoutElement id).elementIds, List.Sublist.subperm ?_, by simp [created]⟩
    simp only [Session.elementIds, withoutElement, SceneTable.drop_modify]
    exact (List.eraseP_sublist.map _).append_right _
  | edit edit h => exact same (congrArg (· ++ _) (ids_eq_of_mark (mark_editLive _ _ _)))
  | updateGesture p h => exact same (congrArg (· ++ _) (ids_eq_of_mark (mark_editLive _ _ _)))
  | switchTo h =>
    have hload := elementIds_load { s with project := s.whole } hw (by simpa using h)
    exact all (by simpa [created] using hload.trans (ids_whole hs))
  | addScene hn h =>
    have hscene := elementIds_add hs h []
    have hfree : s.project.scenes.nextName ∉ s.project.scenes.names := hn ▸ h
    refine all ((elementIds_addElement n .menu {}).trans ?_)
    simpa [created, hfree, numberedFrom_cons] using hscene.append_right _
  | @renameScene name h₁ h₂ =>
    have hdrop : (s.whole.scenes.relabel s.current name).drop name
        = s.project.scenes.drop s.current := by
      rw [SceneTable.drop_relabel (by simpa using h₂), whole, SceneTable.drop_modify]
    exact same (by simp only [Session.elementIds, withScenes, hdrop])
  | @duplicateScene name h₁ h₂ =>
    have hscene := elementIds_add hs h₂ (Element.copies n s.live)
    rw [ids_copies] at hscene
    exact all (by simpa [created, h₁, h₂] using hscene)
  | deleteScene h hn =>
    have hload := elementIds_load (s.withScenes (s.project.scenes.drop s.current))
      (hs.valid.drop h) (SceneTable.neighbour_mem hs.valid hs.current_mem h hn)
    refine ⟨(s.project.scenes.drop s.current).ids, (List.sublist_append_right _ _).subperm, ?_⟩
    simpa [created, withScenes] using hload
  | setCanvas canvas =>
    have hids : (s.setCanvas canvas).elementIds = s.elementIds := by
      simp [Session.elementIds, Session.setCanvas, SceneTable.fit, SceneTable.drop_mapElements,
        SceneTable.ids_mapElements fun e => e.fit_id canvas s.fonts, Function.comp_def]
    exact same hids
  | reset =>
    exact ⟨[], List.nil_subperm, elementIds_menu rfl rfl rfl n⟩
  | importText h =>
    have hproject := elementIds_replaceProject (s := s) (valid_of_ofText h)
    rw [Project.ids_ofText h] at hproject
    exact ⟨[], List.nil_subperm, hproject⟩
  | snapshot => exact same (by simp only [Session.elementIds, whole, SceneTable.drop_modify])
  | exportText => exact same (by simp only [Session.elementIds, whole, SceneTable.drop_modify])
  | _ => exact same rfl

lemma Step.paired (hs : s.Consistent) (hp : s.Paired) (hn : s.elementIds.Nodup)
    (h : Step s n a o s' m) : s'.Paired := by
  cases h with
  | addElement kind p => exact hp.addElement hs n kind p
  | @removeElement id e h =>
    have hlive : (s.live.map (·.id)).Nodup := (List.nodup_append.mp hn).1
    simp only [Paired, withoutElement, SceneTable.elements_modify hs.current_mem,
      Element.eraseP_eq_filter hlive]
    have hfilter := congrArg (List.filter (·.1 ≠ id)) hp
    rw [List.filter_map, List.filter_map] at hfilter
    exact hfilter
  | edit edit h => exact hp.trans (mark_editLive _ _ _).symm
  | updateGesture p h => exact hp.trans (mark_editLive _ _ _).symm
  | switchTo h => rfl
  | @addScene name hn h =>
    have hload : ((s.withScenes (s.whole.scenes.add name [])).load name).Paired := rfl
    exact hload.addElement (hs.add h []) n .menu {}
  | @renameScene name h₁ h₂ =>
    simp only [Paired, withScenes]
    rw [SceneTable.elements_relabel (whole_valid hs).2 (by simpa using h₂)
      (by simpa using hs.current_mem), elements_whole hs]
  | duplicateScene h₁ h₂ => rfl
  | deleteScene h hn => rfl
  | setCanvas canvas =>
    simpa [Paired, Session.setCanvas, SceneTable.fit, SceneTable.elements_mapElements,
      Function.comp_def] using hp
  | reset => exact paired_menu rfl rfl rfl n
  | importText h => rfl
  | snapshot => exact congrArg _ (elements_whole hs)
  | exportText => exact congrArg _ (elements_whole hs)
  | _ => exact hp

/-! ### Histories with all names that were given out -/

/-- The stems of the names that a new session takes. -/
def createdAtStart (config : SessionConfig) : List String :=
  if config.startupMenu then [Kind.menu.tag] else []

/-- The sessions that actions and documents lead to, each with the registry of all names that were
given out up to it, by the session and by whatever else gave out names. -/
inductive History : Registry → Session → Prop
  | new (config : SessionConfig) {r : Registry} (hr : r.Used) :
      History (r.freshAll (createdAtStart config)).2 (Session.new config r.next).1
  | document (config : SessionConfig) {r : Registry} (hr : r.Used) {canvas : Canvas} {text : String}
      {p : Project} {m : Nat} (h : Project.ofText canvas r.next text = (.ok p, m)) :
      History (r.freshAll (Project.tagsOfText text)).2 (.ofProject config p)
  | replace {r : Registry} {s : Session} (hs : History r s) {canvas : Canvas} {text : String}
      {p : Project} {m : Nat} (h : Project.ofText canvas r.next text = (.ok p, m)) :
      History (r.freshAll (Project.tagsOfText text)).2 (s.replaceProject p)
  | after {r : Registry} {s : Session} (hs : History r s) (a : Action) :
      History (r.freshAll (s.created a)).2 (s.after r.next a).1
  | elsewhere {r : Registry} {s : Session} (hs : History r s) (stems : List String) :
      History (r.freshAll stems).2 s

/-- A session in which all names differ and were given out, and both copies show the same. -/
structure Named (r : Registry) (s : Session) : Prop where
  sound : r.Sound
  consistent : s.Consistent
  paired : s.Paired
  nodup : s.elementIds.Nodup
  known : ∀ id ∈ s.elementIds, id ∈ r.known

/-- Names that are kept go together with new ones. -/
lemma named_of_perm (hr : r.Sound) (hs : s.Consistent) (hp : s.Paired) {kept : List ElementId}
    (hkept : kept.Nodup) (hknown : ∀ id ∈ kept, id ∈ r.known) {stems : List String}
    (hperm : s.elementIds.Perm (kept ++ numberedFrom r.next stems)) :
    Named (r.freshAll stems).2 s := by
  obtain ⟨hnodup, hnew⟩ := hr.freshAll_new stems
  rw [Registry.freshAll_fst] at hnodup hnew
  refine ⟨hr.freshAll stems, hs, hp, ?_, ?_⟩
  · rw [hperm.nodup_iff, List.nodup_append']
    exact ⟨hkept, hnodup, fun id hid hid' => hnew id hid' (hknown id hid)⟩
  · intro id hid
    rw [Registry.mem_known_freshAll]
    exact (List.mem_append.mp (hperm.mem_iff.mp hid)).imp_left (hknown id)

lemma Named.elsewhere (h : Named r s) (stems : List String) : Named (r.freshAll stems).2 s :=
  ⟨h.sound.freshAll stems, h.consistent, h.paired, h.nodup,
    fun id hid => Registry.mem_known_freshAll.mpr (.inl (h.known id hid))⟩

lemma Named.step (h : Named r s) (hstep : Step s r.next a o s' m) :
    Named (r.freshAll (s.created a)).2 s' := by
  obtain ⟨kept, hkept, hperm⟩ := hstep.elementIds h.consistent
  obtain ⟨l, hl, hsub⟩ := hkept
  have hnodup : kept.Nodup := hl.nodup_iff.mp (h.nodup.sublist hsub)
  have hknown : ∀ id ∈ kept, id ∈ r.known :=
    fun id hid => h.known id (hsub.subset (hl.mem_iff.mpr hid))
  exact named_of_perm h.sound (h.consistent.step hstep)
    (hstep.paired h.consistent h.paired h.nodup) hnodup hknown hperm

lemma Named.after (h : Named r s) (a : Action) :
    Named (r.freshAll (s.created a)).2 (s.after r.next a).1 := by
  obtain ⟨o, hstep⟩ | hsame := after_cases h.consistent r.next a
  · exact h.step hstep
  · rw [hsame]
    exact h.elsewhere (s.created a)

section Blank

variable (hr : r.Sound) (h : s.project.scenes = .initial) (hc : s.current = SceneTable.defaultName)
  (hl : s.live = [])

include hr h hc hl

lemma named_blank : Named r s := by
  refine ⟨hr, consistent_blank h hc, paired_blank h hc hl, ?_, ?_⟩
  · simp [elementIds_blank h hc hl]
  · simp [elementIds_blank h hc hl]

lemma named_menu : Named (r.freshAll [Kind.menu.tag]).2 (s.addElement r.next .menu {}) :=
  (named_blank hr h hc hl).step (.addElement .menu {})

end Blank

lemma named_new (hr : r.Sound) (config : SessionConfig) :
    Named (r.freshAll (createdAtStart config)).2 (Session.new config r.next).1 := by
  by_cases hm : config.startupMenu = true
  · simp only [Session.new, createdAtStart, hm, if_true]
    exact named_menu hr rfl rfl rfl
  · simp only [Session.new, createdAtStart, hm]
    exact named_blank hr rfl rfl rfl

lemma named_replaceProject (hr : r.Sound) {p : Project} {canvas : Canvas} {text : String}
    (h : Project.ofText canvas r.next text = (.ok p, m)) :
    Named (r.freshAll (Project.tagsOfText text)).2 (s.replaceProject p) := by
  have hvalid := valid_of_ofText h
  have hids := elementIds_replaceProject (s := s) hvalid
  rw [Project.ids_ofText h] at hids
  exact named_of_perm hr (consistent_replaceProject hvalid) rfl List.nodup_nil (by simp) hids

theorem History.named (h : History r s) : Named r s := by
  induction h with
  | new config hr => exact named_new hr.sound config
  | document config hr h =>
    exact named_replaceProject (s := ⟨{}, "", [], config.canvas, config⟩) hr.sound h
  | replace hs h ih => exact named_replaceProject ih.sound h
  | after hs a ih => exact ih.after a
  | elsewhere hs stems ih => exact ih.elsewhere stems

/-- Every reachable session has a history, whatever numbers were used up elsewhere. -/
theorem Reachable.exists_history {admits : Action → Prop} (h : Reachable admits s n) :
    ∃ r, History r s ∧ r.next = n := by
  induction h with
  | new config n =>
    obtain ⟨r, hr, rfl⟩ := Registry.exists_used n
    refine ⟨_, .new config hr, ?_⟩
    by_cases hm : config.startupMenu = true <;> simp [Session.new, createdAtStart, hm]
  | @document config canvas n m text p h =>
    obtain ⟨r, hr, rfl⟩ := Registry.exists_used n
    have hnext := congrArg Prod.snd h
    rw [Project.ofText_snd] at hnext
    exact ⟨_, .document config hr h, by simpa using hnext⟩
  | replace hs h ih =>
    obtain ⟨r, hr, rfl⟩ := ih
    have hnext := congrArg Prod.snd h
    rw [Project.ofText_snd] at hnext
    exact ⟨_, hr.replace h, by simpa using hnext⟩
  | @after s n a hs h ih =>
    obtain ⟨r, hr, rfl⟩ := ih
    exact ⟨_, hr.after a, by simp [after_snd hs.consistent]⟩
  | @later s n m hs h ih =>
    obtain ⟨r, hr, rfl⟩ := ih
    refine ⟨_, hr.elsewhere (List.replicate (m - r.next) ""), ?_⟩
    simp
    omega

/-- All names of a session differ, and the copies of the active scene show the same names and tags
in the same order. The names that an action takes are new, be it performed or refused: they differ
from each other and from all that were given out before. An action that is performed leaves the
session with all of them and with no others besides those that it had. -/
theorem names_unique (h : History r s) :
    s.elementIds.Nodup ∧ (∀ id ∈ s.elementIds, id ∈ r.known) ∧
      (s.project.scenes.elements s.current).map Element.mark = s.live.map Element.mark ∧
      ∀ a, let taken := (r.freshAll (s.created a)).1
        taken.Nodup ∧ (∀ id ∈ taken, id ∉ r.known) ∧
          (s.perform r.next a).2 = r.next + taken.length ∧
          ∀ o s', (s.perform r.next a).1 = .ok (o, s') →
            (∀ id ∈ s'.elementIds, id ∈ s.elementIds ∨ id ∈ taken) ∧
              ∀ id ∈ taken, id ∈ s'.elementIds := by
  have hs := h.named
  refine ⟨hs.nodup, hs.known, hs.paired, fun a => ?_⟩
  obtain ⟨hnodup, hnew⟩ := hs.sound.freshAll_new (s.created a)
  have hnext : (s.perform r.next a).2 = r.next + (r.freshAll (s.created a)).1.length := by
    rw [perform_snd hs.consistent]
    simp [numberedFrom]
  refine ⟨hnodup, hnew, hnext, fun o s' ho => ?_⟩
  have hstep := step_of_perform hs.consistent (Prod.ext ho rfl)
  obtain ⟨kept, hkept, hperm⟩ := hstep.elementIds hs.consistent
  rw [Registry.freshAll_fst]
  refine ⟨fun id hid => ?_, fun id hid => hperm.mem_iff.mpr (List.mem_append_right kept hid)⟩
  rcases List.mem_append.mp (hperm.mem_iff.mp hid) with hid | hid
  · exact .inl (hkept.subset hid)
  · exact .inr hid

/-- An element is removed, a scene with a late edit is copied and a document is refused, so that
three numbers are missing. -/
theorem names_unique_after_refused_document :
    let text := "\x7b\"scenes\":[\x7b\"name\":\"A\",\"elements\":[\x7b\"type\":\"menu\"\x7d]\x7d,"
      ++ "\x7b\"name\":\"A\",\"elements\":[\x7b\"type\":\"label\"\x7d]\x7d]\x7d"
    let actions : List Action :=
      [.addElement (.ofTag "menu_1") ⟨5, 5⟩, .addElement .button ⟨10, 20⟩,
        .removeElement (.numbered "button" 1), .edit (.numbered "menu_1" 0) (.text "late"),
        .duplicateScene "Copy", .importText text, .addScene]
    let start := Session.new {} 0
    let s := (start.1.run start.2 actions).1
    s.elementIds = [⟨"menu_5"⟩, ⟨"menu_1_0"⟩, ⟨"menu_1_2"⟩] ∧ s.elementIds.Nodup ∧
      ∃ r, History r s ∧ r.next = 6 ∧ ∀ id ∈ s.elementIds, id ∈ r.known := by
  intro text actions start s
  have hreach : Reachable (fun _ => True) s (start.1.run start.2 actions).2 :=
    (Reachable.new {} 0).run fun _ _ => trivial
  have hrun : s.elementIds = [⟨"menu_5"⟩, ⟨"menu_1_0"⟩, ⟨"menu_1_2"⟩] ∧
      (start.1.run start.2 actions).2 = 6 := by
    decide +kernel
  obtain ⟨r, hs, hr⟩ := hreach.exists_history
  obtain ⟨hnodup, hknown, -⟩ := names_unique hs
  exact ⟨hrun.1, hnodup, r, hs, hr.trans hrun.2, hknown⟩

end Session

end Storyboard
