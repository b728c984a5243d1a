import Storyboard.Proofs.Session.Refusal
import Storyboard.Proofs.Session.WellFormed

/-!
# Independent edits

An edit reaches one element, and of this one the property that it names. The rules of the kinds,
which are applied again after every edit, find nothing to do on the elements of a session; and as
no two live elements share a name, edits of different elements can change places.
-/

namespace Storyboard

namespace Edit

variable {ctx : EditContext} {e : Element}

/-- What an edit makes of an element other than a menu: one property gets the value that the edit
names. What only another kind has is left alone. -/
inductive Effect (ctx : EditContext) (e : Element) : Edit → Element → Prop
  | move (p : Position) :
      Effect ctx e (.move p) { e with
        position := ctx.canvas.clamp (e.resolvedSize ctx.fonts).1 (e.resolvedSize ctx.fonts).2 p }
  | resize (w h : Int) :
      Effect ctx e (.resize w h) { e with size := .px (max w ctx.floor) (max h ctx.floor) }
  | text (s : String) : Effect ctx e (.text s) { e with text := s }
  | color (c : Color) : Effect ctx e (.color c) { e with style.color := some c }
  | background (c : Option Color) (h : e.kind ≠ .label) :
      Effect ctx e (.background c) { e with style.background := c }
  | labelBackground (c : Option Color) (h : e.kind = .label) : Effect ctx e (.background c) e
  | font (f : FontCategory) : Effect ctx e (.font f) { e with style.font := some f }
  | opacity (percent : Int) :
      Effect ctx e (.opacity percent) { e with style.opacity := (max 0 (min percent 100)).toNat }
  | trigger (t : Option Trigger) : Effect ctx e (.trigger t) { e with trigger := t }
  | image {old : Option String} (h : e.kind = .image old) (source : Option String) :
      Effect ctx e (.image source) { e with kind := .image source }
  | otherImage (h : ∀ old, e.kind ≠ .image old) (source : Option String) :
      Effect ctx e (.image source) e
  | video {old : Option String} (h : e.kind = .video old) (pathVariable : Option String) :
      Effect ctx e (.video pathVariable) { e with kind := .video pathVariable }
  | otherVideo (h : ∀ old, e.kind ≠ .video old) (pathVariable : Option String) :
      Effect ctx e (.video pathVariable) e
  | collapsedList {command₀ listVariable₀ : String}
      (h : e.kind = .collapsedList command₀ listVariable₀) (command listVariable : String) :
      Effect ctx e (.collapsedList command listVariable)
        { e with kind := .collapsedList command listVariable }
  | otherList (h : ∀ command₀ listVariable₀, e.kind ≠ .collapsedList command₀ listVariable₀)
      (command listVariable : String) : Effect ctx e (.collapsedList command listVariable) e

/-- A change has the effect of its edit, unless the rules of the kinds take a background away. -/
lemma effect_change (hm : e.kind.isMenu = false) {edit : Edit}
    (hlabel : e.kind = .label → ∀ c, edit ≠ .background c) :
    edit.Effect ctx e (edit.change ctx e) := by
  cases edit with
  | move p =>
    rw [change, if_neg (by simp [hm])]
    exact .move p
  | resize w h =>
    rw [change, if_neg (by simp [hm])]
    exact .resize w h
  | text s => exact .text s
  | color c => exact .color c
  | background c => exact .background c fun hk => hlabel hk c rfl
  | font f => exact .font f
  | opacity percent => exact .opacity percent
  | trigger t => exact .trigger t
  | image source =>
    simp only [change]
    split
    · rename_i hk
      exact .image hk source
    · rename_i hk
      exact .otherImage hk source
  | video pathVariable =>
    simp only [change]
    split
    · rename_i hk
      exact .video hk pathVariable
    · rename_i hk
      exact .otherVideo hk pathVariable
  | collapsedList command listVariable =>
    simp only [change]
    split
    · rename_i hk
      exact .collapsedList hk command listVariable
    · rename_i hk
      exact .otherList hk command listVariable

section Regular

variable (hm : e.kind.isMenu = false) (hlabel : e.Unbacked) (hopacity : e.style.opacity ≤ 100)

include hm hlabel hopacity

/-- The rules of the kinds have nothing to do after an effect if they had nothing to do before. -/
lemma Effect.conform_eq {edit : Edit} {e' : Element} (h : edit.Effect ctx e e') :
    e'.conform = e' := by
  cases h with
  | background c hk => exact Element.conform_eq hm (fun h => absurd h hk) hopacity
  | opacity percent =>
    refine Element.conform_eq hm hlabel ?_
    simp only
    omega
  | image hk | video hk | collapsedList hk =>
    exact Element.conform_eq rfl (fun h => by cases h) hopacity
  | _ => exact Element.conform_eq hm hlabel hopacity

/-- An edit has its effect and no other one. -/
theorem effect_apply (edit : Edit) : edit.Effect ctx e (edit.apply ctx e) := by
  by_cases hbackground : e.kind = .label → ∀ c, edit ≠ .background c
  · have heffect : edit.Effect ctx e (edit.change ctx e) := effect_change hm hbackground
    rwa [apply, heffect.conform_eq hm hlabel hopacity]
  · push Not at hbackground
    obtain ⟨hk, c, rfl⟩ := hbackground
    -- The background that a label gets is taken away at once.
    have hsame : (Edit.background c).apply ctx e = e.conform := by
      simp only [apply, change, Element.conform, hk]
    rw [hsame, Element.conform_eq hm hlabel hopacity]
    exact .labelBackground c hk

end Regular

end Edit

namespace Session

variable {s : Session} {n : Nat} {e : Element} {i j : ElementId}

/-- The session with the live element of a name edited. -/
def edited (s : Session) (id : ElementId) (edit : Edit) : Session :=
  { s with live := s.editLive id edit s.live }

/-! ### Edits by name -/

/-- The live element that has a name is found under it. -/
lemma element?_of_mem (hn : (s.live.map (·.id)).Nodup) (h : e ∈ s.live) :
    s.element? e.id = some e := by
  obtain ⟨d, hd⟩ := exists_element? h
  have hid : d.id = e.id := by simpa using List.find?_some hd
  rw [hd, List.inj_on_of_nodup_map hn (List.mem_of_find?_eq_some hd) h hid]

@[simp] lemma ids_edited (id : ElementId) (edit : Edit) :
    (s.edited id edit).live.map (·.id) = s.live.map (·.id) :=
  ids_eq_of_mark (mark_editLive id edit s.live)

/-- Every edit of a live element is performed. -/
lemma edit_of_mem (h : i ∈ s.live.map (·.id)) (edit : Edit) :
    s.edit i edit = .ok (s.edited i edit) := by
  obtain ⟨e, he, rfl⟩ := List.mem_map.mp h
  obtain ⟨d, hd⟩ := exists_element? he
  exact edit_eq_ok.mpr ⟨d, hd, rfl⟩

/-- Edits of different elements can change places. -/
lemma edited_comm (h : i ≠ j) (a b : Edit) :
    (s.edited i a).edited j b = (s.edited j b).edited i a := by
  have hlive : s.editLive j b (s.editLive i a s.live) = s.editLive i a (s.editLive j b s.live) := by
    simp only [editLive, List.map_map]
    refine List.map_congr_left fun e _ => ?_
    simp only [Function.comp_apply]
    -- An element has one of the two names at most.
    by_cases hi : e.id = i
    · simp [hi, h]
    · by_cases hj : e.id = j <;> simp [hi, hj, h.symm]
  exact congrArg (fun live => { s with live }) hlive

/-- An edit of a live element changes what stands at its place. -/
lemma edited_eq_set (hn : (s.live.map (·.id)).Nodup) {k : Nat} (hk : s.live[k]? = some e)
    (edit : Edit) :
    s.edited e.id edit = { s with live := s.live.set k (edit.apply s.editContext e) } := by
  have hlive : s.editLive e.id edit s.live = s.live.set k (edit.apply s.editContext e) :=
    Keyed.map_eq_set hn hk (edit.apply s.editContext)
  exact congrArg (fun live => { s with live }) hlive

/-- The rules of the kinds have nothing to do on what a session holds, menus aside. -/
lemma Reachable.edit_effect {admits : Action → Prop} (hs : Reachable admits s n) (he : s.Holds e)
    (hm : e.kind.isMenu = false) (edit : Edit) :
    edit.Effect s.editContext e (edit.apply s.editContext e) :=
  Edit.effect_apply hm (hs.unbacked e he) (hs.styled e he).opacity edit

/-- Every edit of a live element is performed, and all that it changes is this element, which keeps
its name and its tag. A menu stays as it is, and any other element gets the one effect of the edit.
Edits of two different elements come to the same session in either order. -/
theorem edit_independent {admits : Action → Prop} (hs : Reachable admits s n) :
    (∀ (k : Nat) e, s.live[k]? = some e → ∀ edit : Edit, ∃ e',
      s.edit e.id edit = .ok { s with live := s.live.set k e' } ∧ e'.mark = e.mark ∧
        (e.kind.isMenu = true → e' = e) ∧
        (e.kind.isMenu = false → edit.Effect s.editContext e e')) ∧
      ∀ d ∈ s.live, ∀ e ∈ s.live, d ≠ e → ∀ a b : Edit, ∃ t,
        (s.edit d.id a >>= (·.edit e.id b)) = .ok t ∧
        (s.edit e.id b >>= (·.edit d.id a)) = .ok t := by
  have hn := hs.nodup_live
  constructor
  · intro k e hk edit
    have he : e ∈ s.live := List.mem_of_getElem? hk
    refine ⟨edit.apply s.editContext e, ?_, Edit.apply_mark _ _ edit, ?_, ?_⟩
    · rw [edit_of_mem (List.mem_map_of_mem he), edited_eq_set hn hk]
    · intro hm
      exact (hs.canonicalMenu e (.inl he) hm).apply_eq hm s.editContext edit
    · intro hm
      exact hs.edit_effect (.inl he) hm edit
  · intro d hd e he hne a b
    have hid : d.id ≠ e.id := by
      intro hid
      exact hne (List.inj_on_of_nodup_map hn hd he hid)
    refine ⟨(s.edited d.id a).edited e.id b, ?_, ?_⟩
    · rw [edit_of_mem (List.mem_map_of_mem hd)]
      exact edit_of_mem (by simpa using List.mem_map_of_mem he) b
    · rw [edit_of_mem (List.mem_map_of_mem he), edited_comm hid]
      exact edit_of_mem (by simpa using List.mem_map_of_mem hd) a

/-- A label, which gets no background and takes no source of a picture, and a picture beside it;
one gets a text and the other is moved, in either order. -/
theorem edit_independent_picture :
    let actions : List Action :=
      [.addScene, .addElement .label ⟨10, 10⟩, .addElement (.ofTag "image") ⟨10, 60⟩]
    let s := ((Session.new {} 0).1.run 0 actions).1
    let label := s.newElement 1 .label ⟨10, 10⟩
    let picture := s.newElement 2 (.ofTag "image") ⟨10, 60⟩
    Reachable (fun _ => True) s 3 ∧ s.live[1]? = some label ∧ s.live[2]? = some picture ∧
      (∀ edit ∈ [Edit.background (some ⟨255, 0, 0⟩), .image (some "a.png")],
        s.edit label.id edit = .ok s) ∧
      (∃ e', s.edit picture.id (.image (some "a.png")) = .ok { s with live := s.live.set 2 e' } ∧
        e' = { picture with kind := .image (some "a.png") }) ∧
      ∃ t, (s.edit label.id (.text "Hello") >>= (·.edit picture.id (.move ⟨5, 5⟩))) = .ok t ∧
        (s.edit picture.id (.move ⟨5, 5⟩) >>= (·.edit label.id (.text "Hello"))) = .ok t := by
  intro actions s label picture
  have hs : Reachable (fun _ => True) s 3 := (Reachable.new {} 0).run fun _ _ => trivial
  have hlabel : s.live[1]? = some label := by decide +kernel
  have hpicture : s.live[2]? = some picture := by decide +kernel
  obtain ⟨heffect, hcomm⟩ := edit_independent hs
  refine ⟨hs, hlabel, hpicture, fun edit hedit => ?_, ?_, ?_⟩
  · obtain ⟨e', he', -, -, hplain⟩ := heffect 1 label hlabel edit
    have hsame : { s with live := s.live.set 1 label } = s := by decide +kernel
    rw [he']
    simp only [List.mem_cons, List.not_mem_nil, or_false] at hedit
    rcases hedit with rfl | rfl
    · cases hplain rfl with
      | background c h => exact absurd rfl h
      | labelBackground => rw [hsame]
    · cases hplain rfl with
      | image h => cases h
      | otherImage => rw [hsame]
  · obtain ⟨e', he', -, -, hplain⟩ := heffect 2 picture hpicture (.image (some "a.png"))
    refine ⟨e', he', ?_⟩
    cases hplain rfl with
    | image => rfl
    | otherImage h => exact absurd rfl (h none)
  · exact hcomm label (List.mem_of_getElem? hlabel) picture (List.mem_of_getElem? hpicture)
      (by decide +kernel) _ _

end Session

end Storyboard
