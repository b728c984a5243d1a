import Storyboard.Proofs.Format
import Storyboard.Proofs.Session.Names
import Storyboard.Proofs.Session.Origin

/-!
# Menu bars

Every menu of a session is blank and lies at the bottom of the canvas over its full width, live or
stored, however the session came about. An edit of a menu changes nothing at all.
-/

namespace Storyboard

namespace Element

variable {canvas : Canvas} {e : Element}

/-- The rules of its kind leave a menu its place and its size. -/
lemma conform_of_menu (h : e.kind.isMenu = true) :
    e.conform = { e with text := "", style := {}, trigger := none } := by
  obtain ⟨id, kind⟩ := e
  obtain rfl := Kind.isMenu_iff.mp h
  rfl

lemma CanonicalMenu.conform_eq (h : e.CanonicalMenu canvas) (hm : e.kind.isMenu = true) :
    e.conform = e := by
  obtain ⟨id, kind, position, size, text, style, trigger⟩ := e
  obtain ⟨rfl, rfl, rfl, -, -⟩ := h
  exact conform_of_menu hm

/-- A new menu lies at the bottom wherever it is put. -/
lemma canonicalMenu_create (n : Nat) {kind : Kind} (h : kind.isMenu = true) (p : Position)
    (canvas : Canvas) : (create n kind p canvas).CanonicalMenu canvas := by
  obtain rfl := Kind.isMenu_iff.mp h
  exact ⟨rfl, rfl, rfl, rfl, menuHeight, by decide, rfl, rfl⟩

/-- A menu keeps its height on another canvas. -/
lemma CanonicalMenu.refit {old : Canvas} (h : e.CanonicalMenu old) (hm : e.kind.isMenu = true)
    (canvas : Canvas) (fonts : FontSizes) : (e.fit canvas fonts).CanonicalMenu canvas := by
  obtain ⟨htext, hstyle, htrigger, -, height, hpos, hsize, -⟩ := h
  rw [fit_of_menu canvas fonts e hm, hsize]
  exact ⟨htext, hstyle, htrigger, rfl, height, hpos, rfl, rfl⟩

lemma Incoming.canonicalMenu (h : e.Incoming canvas) (hm : e.kind.isMenu = true) :
    e.CanonicalMenu canvas := by
  cases h with
  | menu fonts n => exact (canonicalMenu_create n rfl _ canvas).refit rfl canvas fonts
  | entry hr hk c fonts n =>
    rw [fit_kind] at hm
    exact ((ElementEntry.canonical_toElement hk).menu hm).refit hm canvas fonts

end Element

/-- No edit changes a menu that is blank. -/
lemma Element.CanonicalMenu.apply_eq {canvas : Canvas} {e : Element} (h : e.CanonicalMenu canvas)
    (hm : e.kind.isMenu = true) (ctx : EditContext) (edit : Edit) : edit.apply ctx e = e := by
  rw [Edit.apply_of_menu ctx hm edit, h.conform_eq hm]

namespace Session

variable {s : Session} {n : Nat} {a : Action} {canvas : Canvas} {e : Element}

/-- A menu is blank and anchored whatever its origin, if all menus were so before. -/
lemma Origin.canonicalMenu (hs : ∀ d, s.Holds d → d.kind.isMenu = true → d.CanonicalMenu s.canvas)
    (h : s.Origin a canvas e) (hm : e.kind.isMenu = true) : e.CanonicalMenu canvas := by
  have hedit {d : Element} (hd : s.Holds d) (edit : Edit)
      (hm : (edit.apply s.editContext d).kind.isMenu = true) :
      (edit.apply s.editContext d).CanonicalMenu s.canvas := by
    rw [Edit.apply_isMenu] at hm
    rw [(hs d hd hm).apply_eq hm]
    exact hs d hd hm
  cases h with
  | held h => exact hs e h hm
  | incoming h => exact h.canonicalMenu hm
  | created n kind p =>
    rw [newElement, Element.fit_kind] at hm
    have hnew := Element.canonicalMenu_create n (by simpa using hm) p s.canvas
    exact hnew.refit hm s.canvas s.fonts
  | copied h n =>
    obtain ⟨htext, hstyle, htrigger, hx, hsize⟩ := hs _ h hm
    exact ⟨htext, hstyle, htrigger, hx, hsize⟩
  | edited h id edit => exact hedit h edit hm
  | dragged h g p => exact hedit h (g.edit p) hm
  | fitted h canvas =>
    rw [Element.fit_kind] at hm
    exact (hs _ h hm).refit hm canvas s.fonts

/-- Every menu of a session is blank and lies at the bottom of the canvas. -/
lemma Reachable.canonicalMenu {admits : Action → Prop} (hs : Reachable admits s n) :
    ∀ e, s.Holds e → e.kind.isMenu = true → e.CanonicalMenu s.canvas :=
  hs.forall_holds (fun he hm => he.canonicalMenu hm)
    (fun _ _ hd he hm => he.canonicalMenu hd hm) rfl

/-- No two live elements have the same name. -/
lemma Reachable.nodup_live {admits : Action → Prop} (h : Reachable admits s n) :
    (s.live.map (·.id)).Nodup := by
  obtain ⟨r, hr, -⟩ := h.exists_history
  exact (List.nodup_append.mp hr.named.nodup).1

/-- Editing a live element that the edit leaves as it is leaves the session as it is. -/
lemma edit_eq_self (hn : (s.live.map (·.id)).Nodup) (he : e ∈ s.live) {edit : Edit}
    (h : edit.apply s.editContext e = e) : s.edit e.id edit = .ok s := by
  obtain ⟨d, hd⟩ := exists_element? he
  refine edit_eq_ok.mpr ⟨d, hd, ?_⟩
  have hlive : s.editLive e.id edit s.live = s.live := by
    refine (List.map_congr_left fun x hx => ?_).trans (List.map_id s.live)
    split
    · rename_i hid
      rw [List.inj_on_of_nodup_map hn hx he hid, h, id]
    · rfl
  rw [hlive]

/-- In every session each menu, live or stored, is blank and lies at the bottom of the canvas over
its full width, and every edit of a live menu leaves the session as it is. -/
theorem menu_blank_anchored {admits : Action → Prop} (hs : Reachable admits s n) :
    (∀ e, s.Holds e → e.kind.isMenu = true → e.CanonicalMenu s.canvas) ∧
      ∀ e ∈ s.live, e.kind.isMenu = true → ∀ edit, s.edit e.id edit = .ok s := by
  refine ⟨hs.canonicalMenu, fun e he hm edit => ?_⟩
  have hmenu := hs.canonicalMenu e (.inl he) hm
  exact edit_eq_self hs.nodup_live he (hmenu.apply_eq hm s.editContext edit)

/-- A high menu of a document for another canvas is edited and copied and comes to a small canvas
together with a menu of the usual height. -/
theorem menu_blank_anchored_high_bar :
    let text := "\x7b\"scenes\":[\x7b\"name\":\"A\",\"elements\":[\x7b\"type\":\"menu\",\"x\":7,"
      ++ "\"height\":80,\"text\":\"File\"\x7d,\x7b\"type\":\"label\"\x7d]\x7d]\x7d"
    let actions : List Action :=
      [.importText text, .edit (.numbered "menu" 0) (.text "Edit"),
        .edit (.numbered "menu" 0) (.move ⟨30, 30⟩), .duplicateScene "B", .addScene,
        .setCanvas ⟨320, 200⟩, .deleteScene]
    let s := ((Session.new {} 0).1.run 0 actions).1
    let bar : Element :=
      { id := ⟨"menu_2"⟩, kind := .menu, position := ⟨0, 120⟩, size := .px 320 80, text := ""
        style := {}, trigger := none }
    Reachable (fun _ => True) s 5 ∧ bar ∈ s.live ∧ bar.CanonicalMenu s.canvas ∧
      s.edit bar.id (.resize 10 10) = .ok s := by
  intro text actions s bar
  have hs : Reachable (fun _ => True) s (((Session.new {} 0).1.run 0 actions).2) :=
    (Reachable.new {} 0).run fun _ _ => trivial
  have hrun : ((Session.new {} 0).1.run 0 actions).2 = 5 ∧ bar ∈ s.live := by decide +kernel
  obtain ⟨hmenus, hedit⟩ := menu_blank_anchored hs
  exact ⟨hrun.1 ▸ hs, hrun.2, hmenus bar (.inl hrun.2) rfl, hedit bar hrun.2 rfl _⟩

end Session

end Storyboard
