import Storyboard.Proofs.Session.Reachable

/-!
# The active scene and its button

The active scene is kept by its name. Whatever happens to scenes and names, it stays the name of
exactly one scene of a table that is never empty; so every menu shows one button for each scene, of
which one is active, and a snapshot finds the place for the live elements.
-/

namespace Storyboard

namespace MenuButton

@[simp] lemma map_scene_row (scenes : List String) (active : String) :
    (row scenes active).map (·.scene) = scenes := by
  simp [row, Function.comp_def]

/-- A row has as many active buttons as the active name occurs among the scenes. -/
lemma filter_active_row (scenes : List String) (active : String) :
    (row scenes active).filter (·.active)
      = List.replicate (scenes.count active) ⟨active, true⟩ := by
  induction scenes with
  | nil => rfl
  | cons s scenes ih =>
    rw [row] at ih
    by_cases h : s = active
    · simp [row, h, ih, List.replicate_succ]
    · simp [row, h, ih]

end MenuButton

namespace Session

variable {s : Session} {n : Nat}

/-- A snapshot stores the live elements in the entry of the active scene. -/
lemma exists_store (hs : s.Consistent) :
    ∃ t, s.project.scenes.store? s.current s.live = some t ∧ s.snapshot.project.scenes = t ∧
      t.get? s.current = some ⟨s.current, s.live⟩ := by
  refine ⟨s.whole.scenes, SceneTable.store?_of_mem hs.current_mem _, ?_, ?_⟩
  · rw [snapshot_eq hs]
  · rw [SceneTable.get?_of_mem (names_whole (s := s) ▸ hs.current_mem), elements_whole hs]

/-- There are scenes, their names differ, and the active name is that of exactly one of them. Every
menu lists each scene once, in order, and only the button of the active scene is active; a snapshot
stores the live elements in the entry that it finds for this scene. -/
theorem active_scene_unique {admits : Action → Prop} (h : Reachable admits s n) :
    s.project.scenes.scenes ≠ [] ∧ s.sceneNames.Nodup ∧ s.sceneNames.count s.current = 1 ∧
      s.menuButtons.map (·.scene) = s.sceneNames ∧
      s.menuButtons.filter (·.active) = [⟨s.current, true⟩] ∧
      ∃ t, s.project.scenes.store? s.current s.live = some t ∧ s.snapshot.project.scenes = t ∧
        t.get? s.current = some ⟨s.current, s.live⟩ := by
  have hs := h.consistent
  have hcount : s.sceneNames.count s.current = 1 :=
    List.count_eq_one_of_mem hs.valid.2 hs.current_mem
  refine ⟨hs.valid.1, hs.valid.2, hcount, MenuButton.map_scene_row _ _, ?_, exists_store hs⟩
  rw [menuButtons, MenuButton.filter_active_row, hcount]
  rfl

/-- A document is opened, its second scene copied and the copy deleted again. -/
theorem active_scene_unique_after_delete :
    let text := "\x7b\"scenes\":[\x7b\"name\":\"A\"\x7d,\x7b\"name\":\"B\"\x7d]\x7d"
    let actions : List Action :=
      [.importText text, .switchTo "B", .duplicateScene "C", .renameScene "D", .deleteScene]
    let start := Session.new {} 0
    let s := (start.1.run start.2 actions).1
    s.menuButtons = [⟨"A", false⟩, ⟨"B", true⟩] ∧ s.sceneNames.count s.current = 1 ∧
      s.menuButtons.filter (·.active) = [⟨s.current, true⟩] := by
  intro text actions start s
  have hs : Reachable (fun _ => True) s (start.1.run start.2 actions).2 :=
    (Reachable.new {} 0).run fun _ _ => trivial
  obtain ⟨-, -, hcount, -, hactive, -⟩ := active_scene_unique hs
  exact ⟨by decide +kernel, hcount, hactive⟩

end Session

end Storyboard
