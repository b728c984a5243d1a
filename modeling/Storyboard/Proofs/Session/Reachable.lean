import Storyboard.Proofs.Session.Step

/-!
# Reachable sessions

A session begins blank or with the document of a text, and goes on by actions; an action that is
refused leaves it as it was. Numbers may be used up elsewhere in between. What holds at the
beginnings and is kept by every step holds of every reachable session.
-/

namespace Storyboard

namespace Session

variable {s s' : Session} {n m : Nat} {a : Action} {o : Outcome}

/-- The session after an action and the next number then. -/
def after (s : Session) (n : Nat) (a : Action) : Session × Nat :=
  match s.perform n a with
  | (.ok (_, s'), m) => (s', m)
  | (.error _, m) => (s, m)

/-- The sessions, each with the next unused number, that admitted actions lead to. -/
inductive Reachable (admits : Action → Prop) : Session → Nat → Prop
  | new (config : SessionConfig) (n : Nat) :
      Reachable admits (Session.new config n).1 (Session.new config n).2
  | document (config : SessionConfig) {canvas : Canvas} {n m : Nat} {text : String} {p : Project}
      (h : Project.ofText canvas n text = (.ok p, m)) : Reachable admits (.ofProject config p) m
  | replace {s : Session} {canvas : Canvas} {n m : Nat} {text : String} {p : Project}
      (hs : Reachable admits s n) (h : Project.ofText canvas n text = (.ok p, m)) :
      Reachable admits (s.replaceProject p) m
  | after {s : Session} {n : Nat} {a : Action} (hs : Reachable admits s n) (h : admits a) :
      Reachable admits (s.after n a).1 (s.after n a).2
  | later {s : Session} {n m : Nat} (hs : Reachable admits s n) (h : n ≤ m) : Reachable admits s m

/-- The session after some actions and the next number then. -/
def run (s : Session) (n : Nat) (actions : List Action) : Session × Nat :=
  actions.foldl (fun r a => r.1.after r.2 a) (s, n)

lemma run_cons (a : Action) (actions : List Action) :
    s.run n (a :: actions) = (s.after n a).1.run (s.after n a).2 actions := rfl

lemma run_append (actions actions' : List Action) :
    s.run n (actions ++ actions') = (s.run n actions).1.run (s.run n actions).2 actions' :=
  List.foldl_append

lemma Reachable.run {admits : Action → Prop} (h : Reachable admits s n) {actions : List Action}
    (ha : ∀ a ∈ actions, admits a) :
    Reachable admits (s.run n actions).1 (s.run n actions).2 := by
  induction actions generalizing s n with
  | nil => exact h
  | cons a actions ih =>
    exact ih (h.after (ha a (by simp))) fun b hb => ha b (by simp [hb])

lemma Reachable.mono {admits admits' : Action → Prop} (h : Reachable admits s n)
    (ha : ∀ a, admits a → admits' a) : Reachable admits' s n := by
  induction h with
  | new config n => exact .new config n
  | document config h => exact .document config h
  | replace hs h ih => exact ih.replace h
  | @after s n a hs h ih => exact ih.after (ha a h)
  | later hs h ih => exact ih.later h

/-! ### Beginnings -/

/-- A session with nothing but an empty scene. -/
def blank (config : SessionConfig) : Session :=
  { project := blankProject config, current := SceneTable.defaultName, live := []
    canvas := config.canvas, config }

/-- A new session has at most a menu. -/
lemma new_cases (config : SessionConfig) (n : Nat) :
    (Session.new config n).1 = (blank config).addElement n .menu {} ∨
      (Session.new config n).1 = blank config := by
  cases hm : config.startupMenu with
  | true => exact .inl (by rw [Session.new, hm]; rfl)
  | false => exact .inr (by rw [Session.new, hm]; rfl)

/-! ### Consistent sessions -/

/-- A text gives scenes of different names, and at least one. -/
lemma valid_of_ofText {canvas : Canvas} {text : String} {p : Project}
    (h : Project.ofText canvas n text = (.ok p, m)) : p.scenes.Valid := by
  unfold Project.ofText at h
  split at h
  · simp at h
  · unfold Document.toProject at h
    split at h
    · simp at h
    · dsimp only at h
      split at h
      · simp only [Prod.mk.injEq, Except.ok.injEq] at h
        obtain ⟨rfl, -⟩ := h
        exact SceneTable.initial_valid
      · split at h
        · rename_i hne t ht
          simp only [Prod.mk.injEq, Except.ok.injEq] at h
          obtain ⟨rfl, -⟩ := h
          unfold SceneTable.ofScenes? at ht
          split at ht
          · rename_i hv
            obtain rfl := Option.some.inj ht
            exact hv
          · simp at ht
        · simp at h

lemma consistent_load {t : SceneTable} (h : t.Valid) {name : String} (hn : name ∈ t.names) :
    ((s.withScenes t).load name).Consistent :=
  ⟨h, hn⟩

/-- One scene more, under a name that was free, can be made active. -/
lemma Consistent.add (h : s.Consistent) {name : String} (hn : name ∉ s.project.scenes.names)
    (es : List Element) :
    ((s.withScenes (s.whole.scenes.add name es)).load name).Consistent :=
  consistent_load ((whole_valid h).add (by simpa using hn) es) (by simp)

lemma Consistent.addElement (h : s.Consistent) (kind : Kind) (p : Position) :
    (s.addElement n kind p).Consistent :=
  ⟨h.valid.modify, by simpa [Session.addElement] using h.current_mem⟩

lemma fit_valid {p : Project} (h : p.scenes.Valid) (canvas : Canvas) :
    (p.fit canvas).scenes.Valid :=
  h.mapElements _

lemma consistent_blank (h : s.project.scenes = .initial) (hc : s.current = SceneTable.defaultName) :
    s.Consistent :=
  ⟨h ▸ SceneTable.initial_valid, by simp [h, hc, SceneTable.initial, SceneTable.names]⟩

lemma consistent_new (config : SessionConfig) (n : Nat) : (Session.new config n).1.Consistent := by
  rcases new_cases config n with h | h <;> rw [h]
  · exact (consistent_blank rfl rfl).addElement _ _
  · exact consistent_blank rfl rfl

lemma consistent_ofProject (config : SessionConfig) {p : Project} (h : p.scenes.Valid) :
    (Session.ofProject config p).Consistent :=
  ⟨fit_valid h _, SceneTable.first_mem (fit_valid h _)⟩

lemma consistent_replaceProject {p : Project} (h : p.scenes.Valid) :
    (s.replaceProject p).Consistent :=
  ⟨fit_valid h _, SceneTable.first_mem (fit_valid h _)⟩

lemma Consistent.step (hs : s.Consistent) (h : Step s n a o s' m) : s'.Consistent := by
  have hw : s.whole.scenes.Valid := whole_valid hs
  cases h with
  | addElement kind p => exact hs.addElement kind p
  | removeElement h => exact ⟨hs.valid.modify, by simpa [withoutElement] using hs.current_mem⟩
  | edit edit h => exact ⟨hs.valid, hs.current_mem⟩
  | updateGesture p h => exact ⟨hs.valid, hs.current_mem⟩
  | switchTo h => exact ⟨hw, by simpa [load] using h⟩
  | addScene hn h => exact (hs.add h []).addElement _ _
  | renameScene h₁ h₂ =>
    refine ⟨hw.relabel (by simpa using h₂), ?_⟩
    simp only [withScenes, SceneTable.names_relabel, names_whole]
    exact List.mem_map.mpr ⟨s.current, hs.current_mem, if_pos rfl⟩
  | duplicateScene h₁ h₂ => exact hs.add h₂ _
  | deleteScene h hn =>
    exact consistent_load (hs.valid.drop h)
      (SceneTable.neighbour_mem hs.valid hs.current_mem h hn)
  | snapshot => exact ⟨hw, by simpa using hs.current_mem⟩
  | addVariable h => exact ⟨hs.valid, hs.current_mem⟩
  | editVariable value h => exact ⟨hs.valid, hs.current_mem⟩
  | renameVariable h₁ h₂ => exact ⟨hs.valid, hs.current_mem⟩
  | deleteVariable h => exact ⟨hs.valid, hs.current_mem⟩
  | setMetadata title author description => exact ⟨hs.valid, hs.current_mem⟩
  | setBackground background => exact ⟨hs.valid, hs.current_mem⟩
  | setFontSizes sizes => exact ⟨hs.valid, hs.current_mem⟩
  | setCanvas canvas =>
    exact ⟨hs.valid.mapElements _, by simpa [setCanvas, SceneTable.fit] using hs.current_mem⟩
  | reset => exact (consistent_blank rfl rfl).addElement _ _
  | exportText => exact ⟨hw, by simpa using hs.current_mem⟩
  | importText h => exact consistent_replaceProject (valid_of_ofText h)

/-! ### Induction over histories -/

/-- An action either goes on by a step or leaves the session as it was. -/
lemma after_cases (hs : s.Consistent) (n : Nat) (a : Action) :
    (∃ o, Step s n a o (s.after n a).1 (s.after n a).2) ∨ (s.after n a).1 = s := by
  unfold after
  rcases h : s.perform n a with ⟨_ | ⟨o, s'⟩, m⟩
  · exact .inr rfl
  · exact .inl ⟨o, step_of_perform hs h⟩

lemma Reachable.consistent {admits : Action → Prop} (h : Reachable admits s n) :
    s.Consistent := by
  induction h with
  | new config n => exact consistent_new config n
  | document config h => exact consistent_ofProject config (valid_of_ofText h)
  | replace hs h ih => exact consistent_replaceProject (valid_of_ofText h)
  | @after s n a hs h ih =>
    obtain ⟨o, hstep⟩ | heq := after_cases ih n a
    · exact ih.step hstep
    · rwa [heq]
  | later hs h ih => exact ih

/-- What holds of new sessions and of opened documents and is kept by every step of an admitted
action holds of every reachable session. -/
theorem Reachable.invariant {admits : Action → Prop} {P : Session → Prop}
    (hnew : ∀ config n, P (Session.new config n).1)
    (hdocument : ∀ {config canvas n m text p}, Project.ofText canvas n text = (.ok p, m) →
      P (.ofProject config p))
    (hreplace : ∀ {t : Session} {canvas n m text p}, P t →
      Project.ofText canvas n text = (.ok p, m) → P (t.replaceProject p))
    (hstep : ∀ {t t' : Session} {n m a o}, P t → admits a → Step t n a o t' m → P t')
    (h : Reachable admits s n) : P s := by
  induction h with
  | new config n => exact hnew config n
  | document config h => exact hdocument h
  | replace hs h ih => exact hreplace ih h
  | @after s n a hs ha ih =>
    obtain ⟨o, hnext⟩ | heq := after_cases hs.consistent n a
    · exact hstep ih ha hnext
    · rwa [heq]
  | later hs h ih => exact ih

end Session

end Storyboard
