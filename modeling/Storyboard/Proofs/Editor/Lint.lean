import Storyboard.Proofs.Editor.Call
import Storyboard.Proofs.Lint
import Storyboard.Proofs.Renaming
import Storyboard.Proofs.Session.MenuBar
import Storyboard.Proofs.Session.Reopening

/-!
# Findings in the editor and in the file

What lint finds in an editor is what it finds in the file that the editor saves: triggers are
written for every kind of element, texts for the kinds that show them, and the variables and the
names of scenes come back as they are. Elements without a tag are skipped when a file is read; what
lint finds in these is found in the editor alone. Nothing is said here of texts that elements have
and do not show.
-/

namespace Storyboard

open Json

/-! ### Elements that are read back -/

/-- The project without the elements that have no tag, which a file does not give back. -/
def Project.tagged (p : Project) : Project :=
  { p with scenes := p.scenes.typed }

/-- What lint looks at comes back with an element: the trigger and the text, if it is shown. -/
structure Element.Returned (e e' : Element) : Prop where
  trigger : e'.trigger = e.trigger
  hasText : e'.kind.hasText = e.kind.hasText
  text : e'.text = if e.kind.hasText then e.text else ""

/-- The entry of an element gives its trigger and its text again. -/
lemma Element.returned_reread {e : Element} (htagged : e.kind.Tagged)
    (hmenu : e.kind.isMenu = true → e.trigger = none) (canvas : Canvas) (fonts : FontSizes)
    (i : Nat) : e.Returned (e.toEntry.reread.toElement canvas fonts i) := by
  have hkind : e.toEntry.reread.toKind = e.kind.settled := toKind_reread_toEntry htagged
  cases hm : e.kind.isMenu with
  | true =>
    rw [ElementEntry.toElement_of_menu canvas fonts i (by simpa [hkind] using hm)]
    constructor <;> simp [hmenu hm, Kind.isMenu_iff.mp hm, Kind.hasText]
  | false =>
    rw [ElementEntry.toElement_of_not_menu canvas fonts i (by simpa [hkind] using hm)]
    refine ⟨toTrigger_reread_toEntry hmenu, by simp [hkind], ?_⟩
    cases ht : e.kind.hasText with
    | true => simpa [hkind] using toLabel_reread_toEntry ht
    | false => simp [ElementEntry.toLabel, hkind, ht]

namespace Project

variable {p q : Project} {e e' : Element}

lemma nodup_tagged (h : p.scenes.names.Nodup ∧ p.scenes.ids.Nodup) :
    p.tagged.scenes.names.Nodup ∧ p.tagged.scenes.ids.Nodup :=
  ⟨by simpa [tagged] using h.1, h.2.sublist p.scenes.ids_typed_sublist⟩

lemma showsAlike_of_returned (h : e.Returned e') : p.ShowsAlike e e' := by
  refine ⟨h.trigger, ?_⟩
  cases hshown : e.kind.hasText <;> simp [shownTextFindings, h.hasText, h.text, hshown]

/-- All that is found in an element is found again, if there is nothing in a text that it does not
show. -/
lemma findsAlike_of_returned (hshown : e.kind.hasText = false → p.textFindings e.text = [])
    (h : e.Returned e') : p.FindsAlike e e' := by
  refine ⟨h.trigger, ?_⟩
  rw [h.text]
  cases ht : e.kind.hasText with
  | true => rfl
  | false => simp [hshown ht]

/-- Where the elements are returned that have tags, the same is found in triggers and in texts that
are shown. -/
lemma shownFindings_of_returned (hvars : q.vars = p.vars)
    (h : p.tagged.scenes.Alike Element.Returned q.scenes)
    (hp : p.scenes.names.Nodup ∧ p.scenes.ids.Nodup) (hq : q.scenes.ids.Nodup) :
    q.shownFindings = p.tagged.shownFindings :=
  shownFindings_congr hvars (h.imp fun _ _ => showsAlike_of_returned) (nodup_tagged hp) hq

/-- The same is found everywhere, if there is nothing in texts that are not shown. -/
lemma findings_of_returned (hvars : q.vars = p.vars)
    (h : p.tagged.scenes.Alike Element.Returned q.scenes)
    (hp : p.scenes.names.Nodup ∧ p.scenes.ids.Nodup) (hq : q.scenes.ids.Nodup)
    (hshown : p.scenes.Forall fun e => e.kind.hasText = false → p.textFindings e.text = []) :
    q.findings = p.tagged.findings :=
  findings_congr hvars (h.imp_forall hshown.typed fun _ _ => findsAlike_of_returned)
    (nodup_tagged hp) hq

end Project

namespace Editor

variable {ed : Editor}

/-- No call changes the configuration, and font sizes come from it or from documents. -/
lemma Reachable.fonts_usable (h : Reachable ed) :
    ed.session.config = { startupMenu := true } ∧ ed.session.fonts.Usable := by
  induction h with
  | start n => exact ⟨rfl, FontSizes.usable_default⟩
  | @call ed h c ih =>
    rw [call_snd]
    cases ha : c.action? ed with
    | none => exact ih
    | some a =>
      change (ed.session.after ed.next a).1.config = _ ∧ (ed.session.after ed.next a).1.fonts.Usable
      obtain ⟨o, hstep⟩ | hsame := Session.after_cases h.session.consistent ed.next a
      · have hsizes : ∀ sizes, a = .setFontSizes sizes → sizes.Usable := by
          rintro sizes rfl
          exact (admits_action? ha).elim
        refine ⟨hstep.config_eq.trans ih.1, hstep.fonts_usable ih.2 ?_ hsizes⟩
        rw [ih.1]
        exact FontSizes.usable_default
      · rw [hsame]
        exact ih
  | later h hm ih => exact ih

/-- New elements have the kinds of tags, so every tag names the kind of its element. -/
lemma Reachable.regular (h : Reachable ed) :
    Session.Reachable Action.Regular ed.session ed.next := by
  refine h.session.mono ?_
  rintro a ha
  cases a with
  | addElement kind p =>
    obtain ⟨tag, rfl⟩ := ha
    exact Kind.regular_ofTag tag
  | _ => trivial

/-- What is saved is the document with the live elements. -/
lemma exportText_fst (hs : ed.session.Consistent) :
    (ed.call .exportText).1 = .text ed.session.whole.toText := by
  change Answer.text ed.exportText.1 = _
  rw [exportText, ask, Session.perform_exportText hs]

lemma Reachable.nodup_whole (h : Reachable ed) :
    ed.session.whole.scenes.names.Nodup ∧ ed.session.whole.scenes.ids.Nodup := by
  obtain ⟨r, hr, -⟩ := h.session.exists_history
  have hids := Session.ids_whole h.session.consistent
  exact ⟨(Session.whole_valid h.session.consistent).2, hids.nodup_iff.mpr hr.named.nodup⟩

/-- What an editor saves is read back with the same variables, and its elements with tags come back
one by one, under names of their own. -/
lemma exists_reread (h : Reachable ed) (hr : ed.session.whole.InRange) (n : Nat) :
    ∃ q k, Project.ofText ed.session.canvas n ed.session.whole.toText = (.ok q, k) ∧
      q.vars = ed.session.whole.vars ∧ q.scenes.ids.Nodup ∧
      ed.session.whole.tagged.scenes.Alike Element.Returned q.scenes := by
  have hs := h.session.consistent
  have htidy := h.session.tidy
  have helements : ed.session.whole.scenes.Forall fun e => e.Legible ∧ (e.kind.tag ≠ "" → ∀ i,
      e.Returned (e.toEntry.reread.toElement ed.session.canvas
        ed.session.whole.metadata.fontSizes.reread i)) := by
    intro s hscene e he
    refine ⟨(hr s hscene e he).legible, fun htag => ?_⟩
    have hheld := Session.holds_of_whole hscene he
    exact Element.returned_reread ((h.regular.regular e hheld).tagged htag)
      (fun hm => (h.session.canonicalMenu e hheld hm).trigger) _ _
  obtain ⟨q, k, hq, -, hvars, halike⟩ := Project.exists_ofText_toText ed.session.canvas n
    (Session.whole_valid hs) htidy.vars htidy.metadata h.fonts_usable.2.bounded helements "" trivial
    (by simp [tokens])
  rw [String.append_empty] at hq
  have hids : q.scenes.ids.Nodup := by
    rw [Project.ids_ofText hq]
    exact nodup_numberedFrom n _
  exact ⟨q, k, hq, hvars, hids, halike⟩

/-- The findings that an editor shows are those of the file that it saves. What it saves is read
back, and place by place the findings there are those about its elements that have tags, in triggers
and in texts that are shown. They are all of these if nothing is found in other texts, and all there
are in the editor if every element has a tag. -/
theorem lint_saved (h : Reachable ed) (hr : ed.session.whole.InRange) (n : Nat) :
    (ed.call .lint).1 = .findings ed.session.whole.lint ∧
      ∃ text q k, (ed.call .exportText).1 = .text text ∧
        Project.ofText ed.session.canvas n text = (.ok q, k) ∧
        q.shownFindings = ed.session.whole.tagged.shownFindings ∧
        (ed.session.whole.scenes.Forall (fun e =>
            e.kind.hasText = false → ed.session.whole.textFindings e.text = []) →
          q.findings = ed.session.whole.tagged.findings) ∧
        (ed.session.whole.scenes.Forall (fun e => e.kind.tag ≠ "") →
          ed.session.whole.tagged = ed.session.whole) := by
  have hs := h.session.consistent
  obtain ⟨q, k, hq, hvars, hids, halike⟩ := exists_reread h hr n
  refine ⟨lint_fst hs, _, q, k, exportText_fst hs, hq, ?_, fun hshown => ?_, fun htags => ?_⟩
  · exact Project.shownFindings_of_returned hvars halike h.nodup_whole hids
  · exact Project.findings_of_returned hvars halike h.nodup_whole hids hshown
  · rw [Project.tagged, SceneTable.typed_eq htags]

/-- A button that leads nowhere and refers to a missing variable, a scene without its menu, and a
picture. -/
theorem lint_saved_dangling_button :
    let calls : List Call :=
      [.createElement "image" ⟨300, 20⟩, .createElement "button" ⟨10, 20⟩,
        .setTrigger (.numbered "button" 2) "change_scene" "Nowhere" "",
        .setProperty (.numbered "button" 2) "text" "Score: $score", .addScene,
        .removeElement (.numbered "menu" 3)]
    let ed := ((start 0).run calls).2
    ∃ text q k, (ed.call .exportText).1 = .text text ∧
      Project.ofText ed.session.canvas 4 text = (.ok q, k) ∧
      q.findings = [("Scene 1", some 2, .unknownScene "Nowhere"),
        ("Scene 1", some 2, .undefinedReference "score"), ("Scene 2", none, .emptyScene)] := by
  intro calls ed
  have hr : ed.session.whole.InRange := by decide +kernel
  have hshown : ∀ s ∈ ed.session.whole.scenes.scenes, ∀ e ∈ s.elements,
      e.kind.hasText = false → ed.session.whole.textFindings e.text = [] := by
    decide +kernel
  have htags : ∀ s ∈ ed.session.whole.scenes.scenes, ∀ e ∈ s.elements, e.kind.tag ≠ "" := by
    decide +kernel
  obtain ⟨-, text, q, k, hexport, hread, -, hfindings, htagged⟩ :=
    lint_saved ((Reachable.start 0).run calls) hr 4
  refine ⟨text, q, k, hexport, hread, ?_⟩
  rw [hfindings hshown, htagged htags]
  decide +kernel

/-- What there is to find in an element without a tag is not found in the file. -/
theorem findings_lost_by_saving :
    let calls : List Call :=
      [.createElement "" ⟨10, 20⟩, .setProperty ⟨"_1"⟩ "text" "$score"]
    let ed := ((start 0).run calls).2
    ∃ text q k, (ed.call .exportText).1 = .text text ∧
      Project.ofText ed.session.canvas 2 text = (.ok q, k) ∧ q.findings = [] ∧
      ed.session.whole.findings = [("Scene 1", some 1, .undefinedReference "score")] ∧
      (ed.call .lint).1
        = .findings [⟨"Scene 1", some ⟨"_1"⟩, .undefinedReference "score"⟩] := by
  intro calls ed
  have hed : Reachable ed := (Reachable.start 0).run calls
  have hr : ed.session.whole.InRange := by decide +kernel
  have hshown : ∀ s ∈ ed.session.whole.scenes.scenes, ∀ e ∈ s.elements,
      e.kind.hasText = false → ed.session.whole.textFindings e.text = [] := by
    decide +kernel
  have hnothing : ed.session.whole.tagged.findings = [] := by decide +kernel
  obtain ⟨q, k, hq, hvars, hids, halike⟩ := exists_reread hed hr 2
  have hfile := Project.findings_of_returned hvars halike hed.nodup_whole hids hshown
  exact ⟨_, q, k, exportText_fst hed.session.consistent, hq, hfile.trans hnothing,
    by decide +kernel, by decide +kernel⟩

end Editor

end Storyboard
