import Storyboard.Proofs.Document.Element

/-!
# Triggers of documents

A kind of trigger has a field for its target, and some have one for a value. Old documents have one
target and one value for all kinds, which count where the kind has no field of its own. Fields of
other kinds, left behind when the kind was changed, count for nothing and are not written again.
-/

namespace Storyboard

namespace TriggerKind

/-- The field for the target. -/
def targetField : TriggerKind → ElementField
  | .changeScene => .sceneChange
  | .setVariable => .variableChange
  | .externalApp => .externalAppPath
  | .playVideo => .videoPath
  | .playImage => .imagePath

/-- The field for the value, if the kind has one. -/
def valueField? : TriggerKind → Option ElementField
  | .setVariable => some .variableChangeValue
  | .externalApp => some .externalAppReturn
  | _ => none

/-- The fields that only triggers of the kind have. -/
def ownFields (k : TriggerKind) : List ElementField :=
  k.targetField :: k.valueField?.toList

end TriggerKind

/-- The kind of trigger to which a field belongs. -/
def ElementField.owner? : ElementField → Option TriggerKind
  | .sceneChange => some .changeScene
  | .variableChange | .variableChangeValue => some .setVariable
  | .externalAppPath | .externalAppReturn => some .externalApp
  | .videoPath => some .playVideo
  | .imagePath => some .playImage
  | _ => none

/-- The fields of a kind are those that belong to it, so no field belongs to two kinds. -/
lemma TriggerKind.mem_ownFields {k : TriggerKind} {f : ElementField} :
    f ∈ k.ownFields ↔ f.owner? = some k := by
  cases k <;> cases f <;> decide

lemma Trigger.value_eq {t : Trigger} (h : t.kind.valueField? = none) : t.value = "" := by
  cases t <;> first | rfl | cases h

/-- The fields in which an entry can say something about a trigger. -/
def ElementField.ofTriggers : List ElementField :=
  .trigger :: TriggerKind.all.flatMap TriggerKind.ownFields ++ [.triggerTarget, .triggerValue]

/-- The entry with a trigger as old documents have it. -/
def Trigger.writeOldTo (e : ElementEntry) (t : Trigger) : ElementEntry :=
  { e with trigger := some t.kind.name, triggerTarget := some t.target, triggerValue := some t.value }

namespace ElementEntry

variable {e e' : ElementEntry} {t : Trigger} {k : TriggerKind} {f : ElementField}

/-- The text of a field for a target or a value, of one kind or of old documents. -/
def argument? (e : ElementEntry) : ElementField → Option String
  | .sceneChange => e.sceneChange
  | .externalAppPath => e.externalAppPath
  | .externalAppReturn => e.externalAppReturn
  | .variableChange => e.variableChange
  | .variableChangeValue => e.variableChangeValue
  | .videoPath => e.videoPath
  | .imagePath => e.imagePath
  | .triggerTarget => e.triggerTarget
  | .triggerValue => e.triggerValue
  | _ => none

/-- The entry has a type, and it is not that of a menu. -/
structure Plain (e : ElementEntry) : Prop where
  typed : e.kind ≠ ""
  item : (Kind.ofTag e.kind).isMenu = false

/-- Two entries say the same in the fields of a kind, and in those of old documents as far as there
is no field of the kind. A field that is there counts even if its text is empty. -/
structure Agree (k : TriggerKind) (e e' : ElementEntry) : Prop where
  own : ∀ f ∈ k.ownFields, e.argument? f = e'.argument? f
  target : e.argument? k.targetField = none → e.triggerTarget = e'.triggerTarget
  value : ∀ f ∈ k.valueField?, e.argument? f = none → e.triggerValue = e'.triggerValue

/-- Whatever document the entry stands in, its element has the trigger. -/
def Gives (e : ElementEntry) (t : Trigger) : Prop :=
  ∀ canvas fonts n, (e.toElement canvas fonts n).trigger = some t

/-- Of the fields for triggers the entry has the name of the kind and exactly those of the kind, and
it writes them and no others. -/
structure Carries (k : TriggerKind) (e : ElementEntry) : Prop where
  name : e.trigger = some k.name
  arguments : ∀ f, (e.argument? f).isSome = true ↔ f ∈ k.ownFields
  keys : (e.table.map (·.1)).filter (· ∈ ElementField.ofTriggers) = .trigger :: k.ownFields

/-! ### Decoding -/

lemma triggerParts_eq (e : ElementEntry) (k : TriggerKind) :
    e.triggerParts k = (((e.argument? k.targetField).or e.triggerTarget).getD "",
      k.valueField?.elim "" fun f => ((e.argument? f).or e.triggerValue).getD "") := by
  cases k <;> rfl

lemma own_or_congr {own old old' : Option String} (h : own = none → old = old') :
    own.or old = own.or old' := by
  cases own with
  | none => exact h rfl
  | some s => rfl

lemma Agree.triggerParts_eq (h : Agree k e e') : e.triggerParts k = e'.triggerParts k := by
  have htarget := h.own _ List.mem_cons_self
  rw [e.triggerParts_eq, e'.triggerParts_eq, ← htarget, own_or_congr h.target]
  cases hv : k.valueField? with
  | none => rfl
  | some f =>
    have hvalue := h.own f (by simp [TriggerKind.ownFields, hv])
    simp only [Option.elim_some, ← hvalue, own_or_congr (h.value f hv)]

/-- Entries that differ in fields of other kinds only agree. -/
lemma agree_of_stale
    (h : ∀ f, (∀ k', k' ≠ k → f ∉ k'.ownFields) → e.argument? f = e'.argument? f) :
    Agree k e e' := by
  have howner : ∀ f, (∀ k', f.owner? = some k' → k' = k) → e.argument? f = e'.argument? f :=
    fun f hf => h f fun k' hne hmem => hne (hf k' (TriggerKind.mem_ownFields.mp hmem))
  refine ⟨fun f hf => howner f fun k' hk' => ?_, fun _ => ?_, fun _ _ _ => ?_⟩
  · exact Option.some.inj (hk'.symm.trans (TriggerKind.mem_ownFields.mp hf))
  · exact howner .triggerTarget fun k' hk' => by cases hk'
  · exact howner .triggerValue fun k' hk' => by cases hk'

lemma toTrigger_eq (h : e.trigger = some k.name) :
    e.toTrigger = some (.ofParts (e.triggerParts k).1 (e.triggerParts k).2 k) := by
  simp [toTrigger, h, TriggerKind.ofName?_name]

lemma argument?_writeOldTo (hf : f ∈ k.ownFields) :
    (t.writeOldTo e).argument? f = e.argument? f := by
  rw [TriggerKind.mem_ownFields] at hf
  cases f <;> first | rfl | cases hf

/-- A trigger comes back from the fields of old documents where there are none of its kind. -/
lemma toTrigger_writeOldTo (h : ∀ f ∈ t.kind.ownFields, e.argument? f = none) :
    (t.writeOldTo e).toTrigger = some t := by
  have hnone : ∀ f ∈ t.kind.ownFields, (t.writeOldTo e).argument? f = none :=
    fun f hf => (argument?_writeOldTo hf).trans (h f hf)
  have hparts : (t.writeOldTo e).triggerParts t.kind = (t.target, t.value) := by
    rw [triggerParts_eq, hnone _ List.mem_cons_self]
    cases hv : t.kind.valueField? with
    | none => exact Prod.ext rfl (Trigger.value_eq hv).symm
    | some f =>
      rw [Option.elim_some, hnone f (by simp [TriggerKind.ownFields, hv])]
      rfl
  rw [toTrigger_eq (k := t.kind) rfl, hparts, Trigger.ofParts_kind]

namespace Plain

variable (h : e.Plain)

include h

lemma isMenu_toKind : e.toKind.isMenu = false := by
  rw [← Kind.isMenu_bare, e.bare_toKind, h.item]

lemma gives (ht : e.toTrigger = some t) : e.Gives t := by
  intro canvas fonts n
  rw [toElement_of_not_menu canvas fonts n h.isMenu_toKind]
  exact ht

lemma of_kind (hk : e'.kind = e.kind) : e'.Plain :=
  ⟨hk ▸ h.typed, hk ▸ h.item⟩

end Plain

/-! ### Encoding -/

/-- What the entry writes for triggers follows from what it says about them. -/
lemma carries_of_arguments (hname : e.trigger = some k.name)
    (harguments : ∀ f, (e.argument? f).isSome = true ↔ f ∈ k.ownFields) : e.Carries k := by
  refine ⟨hname, harguments, ?_⟩
  have hwritten : ∀ f, f ∈ ElementField.ofTriggers ∧ (e.written f).isSome = true ↔
      f = .trigger ∨ f.owner? = some k := by
    intro f
    have hf := harguments f
    rw [TriggerKind.mem_ownFields] at hf
    cases f <;> simp [ElementField.ofTriggers, TriggerKind.mem_ownFields, TriggerKind.all, written,
      ElementField.owner?, argument?, hname] at hf ⊢ <;> exact hf
  have hkeys : ∀ f, (decide (f ∈ ElementField.ofTriggers) && (e.written f).isSome)
      = decide (f ∈ .trigger :: k.ownFields) := by
    intro f
    rw [Bool.eq_iff_iff, Bool.and_eq_true, decide_eq_true_eq, decide_eq_true_eq, List.mem_cons,
      TriggerKind.mem_ownFields]
    exact hwritten f
  rw [map_fst_table, List.filter_filter, List.filter_congr fun f _ => hkeys f]
  cases k <;> decide

@[simp] lemma argument?_writeTo_kind (kind : Kind) (e : ElementEntry) (f : ElementField) :
    (kind.writeTo e).argument? f = e.argument? f := by
  cases kind <;> rfl

lemma isSome_argument?_writeTo : ((t.writeTo e).argument? f).isSome = true ↔
    f ∈ t.kind.ownFields ∨ (e.argument? f).isSome = true := by
  rw [TriggerKind.mem_ownFields]
  cases t <;> cases f <;> simp [Trigger.writeTo, Trigger.kind, argument?, ElementField.owner?]

end ElementEntry

namespace Element

variable {e : Element} {t : Trigger}

lemma toTrigger_toEntry (hm : e.kind.isMenu = false) : e.toEntry.toTrigger = e.trigger := by
  rw [toEntry_of_not_menu hm, ElementEntry.toTrigger_writeTo_kind]
  cases e.trigger with
  | none => rfl
  | some t => exact ElementEntry.toTrigger_writeTo_trigger e.styledEntry t

lemma plain_toEntry (hm : e.kind.isMenu = false) (h : e.kind.Tagged) : e.toEntry.Plain := by
  constructor
  · rw [kind_toEntry]
    exact h.tag_ne
  · rw [kind_toEntry, h.regular, Kind.isMenu_bare, hm]

lemma carries_toEntry (hm : e.kind.isMenu = false) (ht : e.trigger = some t) :
    e.toEntry.Carries t.kind := by
  refine ElementEntry.carries_of_arguments ?_ fun f => ?_
  · rw [toEntry_of_not_menu hm, ht]
    cases e.kind <;> cases t <;> rfl
  · have hnone : e.styledEntry.argument? f = none := by cases f <;> rfl
    rw [toEntry_of_not_menu hm, ElementEntry.argument?_writeTo_kind, ht, Option.elim_some,
      ElementEntry.isSome_argument?_writeTo, hnone]
    simp

/-- The entry of an element gives its trigger again, and so does what is read from its value. -/
lemma gives_toEntry (hm : e.kind.isMenu = false) (h : e.kind.Tagged) (ht : e.trigger = some t) :
    e.toEntry.Gives t ∧
      ∀ room, ∃ e', ElementEntry.reader (room + 1) (.ofValue e.toEntry.toValue) = .ok e' ∧
        e'.Gives t := by
  have hplain := plain_toEntry hm h
  refine ⟨hplain.gives ((toTrigger_toEntry hm).trans ht), fun room => ?_⟩
  have hreread : e.toEntry.reread.toTrigger = some t :=
    (toTrigger_reread_toEntry fun hmenu => absurd hmenu (by simp [hm])).trans ht
  have hplain' : e.toEntry.reread.Plain := hplain.of_kind rfl
  exact ⟨e.toEntry.reread, e.toEntry.reader_toValue room, hplain'.gives hreread⟩

end Element

namespace ElementEntry

variable {e : ElementEntry} {k : TriggerKind}

/-- An entry that names a kind of trigger gives its element a trigger of this kind. Every other
entry that agrees with it gives the same one, in particular one that has something else in the
fields of other kinds. The entry that the element writes has the fields of the kind and no others,
and it gives the same trigger again. Every trigger is given by its own fields, whatever else there
is, and by those of old documents where there are none of its own. -/
theorem decoded_trigger (h : e.Plain) (hk : e.trigger = some k.name) :
    ∃ t : Trigger, t.kind = k ∧ e.Gives t ∧
      (∀ e' : ElementEntry, e'.Plain → e'.trigger = some k.name → Agree k e e' → e'.Gives t) ∧
      (∀ e' : ElementEntry, e'.Plain → e'.trigger = some k.name →
        (∀ f, (∀ k', k' ≠ k → f ∉ k'.ownFields) → e.argument? f = e'.argument? f) →
          e'.Gives t) ∧
      (∀ canvas fonts n, let written := (e.toElement canvas fonts n).toEntry
        written.Carries k ∧ written.Gives t ∧
          ∀ room, ∃ e', reader (room + 1) (.ofValue written.toValue) = .ok e' ∧ e'.Gives t) ∧
      ∀ t' : Trigger, (t'.writeTo e).Gives t' ∧
        ((∀ f ∈ t'.kind.ownFields, e.argument? f = none) → (t'.writeOldTo e).Gives t') := by
  have hgiven : ∀ e', Plain e' → e'.trigger = some k.name → Agree k e e' →
      e'.Gives (.ofParts (e.triggerParts k).1 (e.triggerParts k).2 k) := by
    intro e' h' hk' hagree
    rw [hagree.triggerParts_eq]
    exact h'.gives (toTrigger_eq hk')
  have hself := h.gives (toTrigger_eq hk)
  refine ⟨_, Trigger.kind_ofParts _ _ k, hself, hgiven, ?_, ?_, ?_⟩
  · intro e' h' hk' hstale
    exact hgiven e' h' hk' (agree_of_stale hstale)
  · intro canvas fonts n
    have ht := hself canvas fonts n
    have hkind : (e.toElement canvas fonts n).kind = e.toKind := by
      rw [toElement_of_not_menu canvas fonts n h.isMenu_toKind]
    have hm : (e.toElement canvas fonts n).kind.isMenu = false := hkind ▸ h.isMenu_toKind
    have hcarries := Element.carries_toEntry hm ht
    rw [Trigger.kind_ofParts] at hcarries
    exact ⟨hcarries, Element.gives_toEntry hm (hkind ▸ tagged_toKind h.typed) ht⟩
  · intro t'
    constructor
    · have hkind : (t'.writeTo e).kind = e.kind := by cases t' <;> rfl
      exact (h.of_kind hkind).gives (toTrigger_writeTo_trigger e t')
    · intro hnone
      have hplain : (t'.writeOldTo e).Plain := h.of_kind rfl
      exact hplain.gives (toTrigger_writeOldTo hnone)

/-- A program without a path, whose result goes where an old document says, with a scene and a video
left behind. The path of the old document does not count, as the empty one is there. -/
theorem decoded_trigger_stale :
    let e : ElementEntry :=
      { kind := "button", trigger := some "external_app", externalAppPath := some ""
        sceneChange := some "Attic", videoPath := some "old.mp4", triggerTarget := some "old.sh"
        triggerValue := some "out" }
    let tidy : ElementEntry :=
      { kind := "timer", trigger := some "external_app", externalAppPath := some ""
        triggerValue := some "out" }
    e.Plain ∧ tidy.Plain ∧ Agree .externalApp e tidy ∧
      e.Gives (.externalApp "" "out") ∧ tidy.Gives (.externalApp "" "out") ∧
      (e.toElement {} {} 7).toEntry.Carries .externalApp ∧
      (e.toElement {} {} 7).toEntry.Gives (.externalApp "" "out") ∧
      ((Trigger.playImage "a.png").writeOldTo e).Gives (.playImage "a.png") := by
  intro e tidy
  have he : e.Plain := ⟨by decide, by decide⟩
  have htidy : tidy.Plain := ⟨by decide, by decide⟩
  have hagree : Agree .externalApp e tidy := ⟨by decide, by decide, by decide⟩
  obtain ⟨t, -, hgives, hothers, -, hwritten, hevery⟩ := decoded_trigger he (k := .externalApp) rfl
  have hread : (e.toElement {} {} 0).trigger = some (.externalApp "" "out") := by decide +kernel
  obtain rfl : .externalApp "" "out" = t :=
    Option.some.inj (hread.symm.trans (hgives {} {} 0))
  obtain ⟨hcarries, hagain, -⟩ := hwritten {} {} 7
  exact ⟨he, htidy, hagree, hgives, hothers tidy htidy rfl hagree, hcarries, hagain,
    (hevery (.playImage "a.png")).2 (by decide)⟩

end ElementEntry

end Storyboard
