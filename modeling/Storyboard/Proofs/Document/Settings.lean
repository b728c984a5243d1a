import Storyboard.Document.Decoding
import Storyboard.Document.Encoding
import Storyboard.Proofs.Color
import Storyboard.Proofs.Font
import Storyboard.Proofs.Variables

/-!
# Variables and settings

A document keeps its variables and its settings in one object. What the two sides of a document
can hold is said by `Canonical`: a document gives nothing else, and such variables and settings
are told apart again after they were written together. Settings that are only tidy come back too,
except for font sizes of zero.
-/

namespace Storyboard

open Json

/-- The metadata that a document can give. -/
structure Metadata.Canonical (m : Metadata) : Prop where
  background : m.background ≠ some ""
  fontSizes : m.fontSizes.Usable
  /-- Font files have different names and stand in their order. -/
  fontFiles : ∀ files, m.fontFiles = some files →
    (Entries.names files).Nodup ∧ files.Pairwise fun a b => a.1 ≤ b.1

/-- Metadata whose background is not an empty name and whose font files stand in their order. -/
structure Metadata.Tidy (m : Metadata) : Prop where
  background : m.background ≠ some ""
  fontFiles : ∀ files, m.fontFiles = some files →
    (Entries.names files).Nodup ∧ files.Pairwise fun a b => a.1 ≤ b.1

/-- The metadata that are read back from written ones. -/
def Metadata.reread (m : Metadata) : Metadata :=
  { m with fontSizes := m.fontSizes.reread }

namespace VariableStore

lemma Canonical.take {s : VariableStore} (h : s.Canonical) {name : String}
    (hn : isReserved name = false) (v : Value) : (s.take name v).Canonical := by
  unfold VariableStore.take
  split
  · exact h.insert hn _
  · exact h

end VariableStore

namespace Metadata

lemma canonical_default : ({} : Metadata).Canonical :=
  ⟨by simp, FontSizes.usable_default, by simp⟩

lemma Canonical.tidy {m : Metadata} (h : m.Canonical) : m.Tidy :=
  ⟨h.background, h.fontFiles⟩

lemma Canonical.reread_eq {m : Metadata} (h : m.Canonical) : m.reread = m := by
  rw [reread, FontSizes.reread_eq h.fontSizes]

/-! ### What a document gives -/

/-- The members of an object that are scalars, as texts. -/
def scalarsOf (ms : List (String × Value)) : List (String × String) :=
  ms.filterMap fun m => m.2.scalarText?.map fun s => (m.1, s)

lemma names_scalarsOf (ms : List (String × Value)) :
    (Entries.names (scalarsOf ms)).Sublist (Entries.names ms) := by
  induction ms with
  | nil => exact List.Sublist.refl []
  | cons m ms ih =>
    unfold scalarsOf at ih ⊢
    cases hm : m.2.scalarText? with
    | none => simpa [hm] using ih.cons m.1
    | some s => simpa [hm] using ih.cons_cons m.1

/-- Files that are sorted by their names. -/
lemma pairwise_sorted (files : List (String × String)) :
    (files.mergeSort fun a b => decide (a.1 ≤ b.1)).Pairwise fun a b => a.1 ≤ b.1 := by
  have htrans : ∀ a b c : String × String, decide (a.1 ≤ b.1) = true →
      decide (b.1 ≤ c.1) = true → decide (a.1 ≤ c.1) = true := by
    intro a b c hab hbc
    rw [decide_eq_true_eq] at hab hbc ⊢
    exact String.le_trans hab hbc
  have htotal : ∀ a b : String × String, (decide (a.1 ≤ b.1) || decide (b.1 ≤ a.1)) = true := by
    intro a b
    simpa using String.le_total a.1 b.1
  simpa using List.pairwise_mergeSort htrans htotal files

lemma fontFilesOf_ordered {v : Value} {room : Nat} (hv : v.Fits room)
    {files : List (String × String)} (h : fontFilesOf v = some files) :
    (Entries.names files).Nodup ∧ files.Pairwise fun a b => a.1 ≤ b.1 := by
  unfold fontFilesOf at h
  split at h
  · rename_i ms
    obtain rfl := Option.some.inj h
    have hnodup : (Entries.names ms).Nodup := by
      cases room with
      | zero => exact hv.elim
      | succ room => exact hv.1
    constructor
    · have hperm := (List.mergeSort_perm (scalarsOf ms) fun a b => decide (a.1 ≤ b.1)).map (·.1)
      exact hperm.nodup_iff.mpr (hnodup.sublist (names_scalarsOf ms))
    · exact pairwise_sorted (scalarsOf ms)
  · simp at h

/-- Exactly the reserved names are settings. -/
lemma set?_eq_none {m : Metadata} {name : String} {v : Value} :
    m.set? name v = none ↔ isReserved name = false := by
  unfold Metadata.set? isReserved reservedNames
  by_cases h₁ : name = "backgroundImage"
  · simp [h₁]
  by_cases h₂ : name = "fontSizes"
  · simp [h₂]
  by_cases h₃ : name = "fonts"
  · simp [h₃]
  by_cases h₄ : name = "buttonColor"
  · simp [h₄]
  by_cases h₅ : name = "labelColor"
  · simp [h₅]
  simp [h₁, h₂, h₃, h₄, h₅]

lemma Canonical.set? {m m' : Metadata} (h : m.Canonical) {name : String} {v : Value} {room : Nat}
    (hv : v.Fits room) (hset : m.set? name v = some m') : m'.Canonical := by
  unfold Metadata.set? at hset
  split at hset
  · obtain rfl := Option.some.inj hset
    exact ⟨by simp [Option.filter_eq_some_iff], h.fontSizes, h.fontFiles⟩
  split at hset
  · obtain rfl := Option.some.inj hset
    exact ⟨h.background, FontSizes.usable_ofValue v, h.fontFiles⟩
  split at hset
  · obtain rfl := Option.some.inj hset
    exact ⟨h.background, h.fontSizes, fun files hf => fontFilesOf_ordered hv hf⟩
  split at hset
  · obtain rfl := Option.some.inj hset
    exact ⟨h.background, h.fontSizes, h.fontFiles⟩
  split at hset
  · obtain rfl := Option.some.inj hset
    exact ⟨h.background, h.fontSizes, h.fontFiles⟩
  · cases hset

end Metadata

namespace Document

/-- One member of the object goes to its side. -/
def sort (r : VariableStore × Metadata) (m : String × Value) : VariableStore × Metadata :=
  match r.2.set? m.1 m.2 with
  | some settings => (r.1, settings)
  | none => (r.1.take m.1 m.2, r.2)

lemma split_eq (ms : List (String × Value)) : split ms = ms.foldl sort ({}, {}) := rfl

/-- Both sides of a document are such as a document can give. -/
theorem split_canonical {room : Nat} {ms : List (String × Value)} (h : MembersFit room ms) :
    (split ms).1.Canonical ∧ (split ms).2.Canonical := by
  have key : ∀ (ms : List (String × Value)) (r : VariableStore × Metadata), MembersFit room ms →
      r.1.Canonical ∧ r.2.Canonical →
      (ms.foldl sort r).1.Canonical ∧ (ms.foldl sort r).2.Canonical := by
    intro ms
    induction ms with
    | nil => exact fun r _ h => h
    | cons m ms ih =>
      rintro r ⟨hm, hms⟩ ⟨hvars, hsettings⟩
      refine ih _ hms ?_
      unfold sort
      split
      · rename_i hset
        exact ⟨hvars, hsettings.set? hm hset⟩
      · rename_i hset
        exact ⟨hvars.take (Metadata.set?_eq_none.mp hset) _, hsettings⟩
  exact key ms _ h ⟨VariableStore.canonical_empty, Metadata.canonical_default⟩

/-! ### What a project writes -/

/-- Variables go to their side one after the other. -/
lemma foldl_sort_members (es : List (String × String)) (s : VariableStore) (m : Metadata)
    (hnodup : (Entries.names (s.entries ++ es)).Nodup)
    (hnames : ∀ e ∈ es, isReserved e.1 = false) :
    (es.map fun e => (e.1, Value.string e.2)).foldl sort (s, m) = (⟨s.entries ++ es⟩, m) := by
  induction es generalizing s with
  | nil => simp
  | cons e es ih =>
    have hput : Entries.put e.1 e.2 s.entries = s.entries ++ [e] :=
      Entries.put_of_notMem (Entries.notMem_of_nodup_append hnodup) e.2
    have hsort : sort (s, m) (e.1, .string e.2) = (⟨s.entries ++ [e]⟩, m) := by
      have hset : m.set? e.1 (.string e.2) = none :=
        Metadata.set?_eq_none.mpr (hnames e (by simp))
      rw [sort, hset]
      exact congrArg (fun es => ((⟨es⟩ : VariableStore), m)) hput
    rw [List.map_cons, List.foldl_cons, hsort, ih ⟨s.entries ++ [e]⟩]
    · simp
    · simpa using hnodup
    · exact fun x hx => hnames x (by simp [hx])

lemma fontFilesOf_fontFilesValue {files : List (String × String)}
    (h : files.Pairwise fun a b => a.1 ≤ b.1) :
    Metadata.fontFilesOf (Metadata.fontFilesValue files) = some files := by
  have hfiles : (files.map fun f => (f.1, Value.string f.2)).filterMap
      (fun m => m.2.scalarText?.map fun s => (m.1, s)) = files := by
    simp [List.filterMap_map, Value.scalarText?]
  simp only [Metadata.fontFilesValue, Metadata.fontFilesOf, hfiles]
  rw [List.mergeSort_of_pairwise (by simpa using h)]

lemma sort_background (s : VariableStore) (m : Metadata) {background : Option String}
    (h : background ≠ some "") : sort (s, m) ("backgroundImage", .string (background.getD ""))
      = (s, { m with background := background }) := by
  have hfilter : (some (background.getD "")).filter (· ≠ "") = background := by
    cases background with
    | none => rfl
    | some b =>
      have hb : b ≠ "" := fun hb => h (congrArg some hb)
      simp [Option.filter, hb]
  simp only [sort, Metadata.set?, Value.scalarText?, hfilter, if_true]

lemma sort_fontSizes (s : VariableStore) (m : Metadata) {sizes : FontSizes} (h : sizes.Bounded) :
    sort (s, m) ("fontSizes", sizes.toValue) = (s, { m with fontSizes := sizes.reread }) := by
  simp [sort, Metadata.set?, FontSizes.ofValue_toValue h]

/-- A setting that may be left out. -/
lemma foldl_sort_optional {β : Type} (s : VariableStore) (set : Option β → Metadata) (key : String)
    (enc : β → Value) (b : Option β)
    (h : ∀ x, b = some x → sort (s, set none) (key, enc x) = (s, set (some x))) :
    (b.map fun x => (key, enc x)).toList.foldl sort (s, set none) = (s, set b) := by
  cases b with
  | none => rfl
  | some x => exact h x rfl

/-- The settings that are written give the metadata that wrote them. -/
lemma foldl_sort_settings (s : VariableStore) {m : Metadata} (h : m.Tidy)
    (hf : m.fontSizes.Bounded) : m.settings.foldl sort (s, {})
      = (s, { m.reread with title := "", author := "", description := "" }) := by
  obtain ⟨title, author, description, background, sizes, files, button, label⟩ := m
  have hfiles := foldl_sort_optional s
    (fun files => { background, fontSizes := sizes.reread, fontFiles := files }) "fonts"
    Metadata.fontFilesValue files fun fs hfs => by
      simp [sort, Metadata.set?, fontFilesOf_fontFilesValue (h.fontFiles fs hfs).2]
  have hbutton := foldl_sort_optional s
    (fun c => { background, fontSizes := sizes.reread, fontFiles := files, buttonColor := c })
    "buttonColor" Color.toValue button fun c _ => by
      simp [sort, Metadata.set?, Color.ofValue?_toValue]
  have hlabel := foldl_sort_optional s
    (fun c => { background, fontSizes := sizes.reread, fontFiles := files, buttonColor := button,
                labelColor := c })
    "labelColor" Color.toValue label fun c _ => by
      simp [sort, Metadata.set?, Color.ofValue?_toValue]
  simp only [Metadata.settings, List.foldl_append, List.foldl_cons, List.foldl_nil]
  rw [sort_background s _ h.background, sort_fontSizes s _ hf, hfiles, hbutton, hlabel,
    Metadata.reread]

/-- What was written together is told apart again. -/
theorem split_written {s : VariableStore} {m : Metadata} (hs : s.Canonical) (hm : m.Tidy)
    (hf : m.fontSizes.Bounded) : split (s.members ++ m.settings)
      = (s, { m.reread with title := "", author := "", description := "" }) := by
  have hvars := foldl_sort_members s.entries {} {} (by simpa [VariableStore.names] using hs.nodup)
    fun e he => hs.unreserved e.1 (List.mem_map_of_mem he)
  rw [split_eq, List.foldl_append, VariableStore.members, hvars]
  exact foldl_sort_settings s hm hf

end Document

/-! ### The object that is written -/

namespace Metadata

lemma settings_names (m : Metadata) : (Entries.names m.settings).Sublist
    ["backgroundImage", "fontSizes", "fonts", "buttonColor", "labelColor"] := by
  obtain ⟨title, author, description, background, sizes, files, button, label⟩ := m
  cases files <;> cases button <;> cases label <;> simp [settings, Entries.names]

lemma isReserved_of_setting {m : Metadata} {name : String} (h : name ∈ Entries.names m.settings) :
    isReserved name = true := by
  have hmem := m.settings_names.subset h
  simp only [isReserved, reservedNames, List.contains_iff_mem, List.mem_cons, List.not_mem_nil,
    or_false] at hmem ⊢
  tauto

/-- What holds of every kind of setting holds of all that are written. -/
lemma forall_settings {P : Value → Prop} (m : Metadata) (hstring : ∀ s, P (.string s))
    (hsizes : P m.fontSizes.toValue)
    (hfiles : ∀ files, m.fontFiles = some files → P (fontFilesValue files))
    (hcolor : ∀ c : Color, P c.toValue) : ∀ x ∈ m.settings, P x.2 := by
  intro x hx
  simp only [settings, List.mem_append, List.mem_cons, List.not_mem_nil, or_false,
    Option.mem_toList, Option.map_eq_some_iff] at hx
  rcases hx with (((rfl | rfl) | ⟨files, hf, rfl⟩) | ⟨c, -, rfl⟩) | ⟨c, -, rfl⟩
  · exact hstring _
  · exact hsizes
  · exact hfiles files hf
  · exact hcolor c
  · exact hcolor c

end Metadata

section Written

variable {s : VariableStore} {m : Metadata}

lemma names_written_nodup (hs : s.Canonical) :
    (Entries.names (s.members ++ m.settings)).Nodup := by
  have hmembers : Entries.names s.members = s.names := by
    simp [VariableStore.members, VariableStore.names, Entries.names, Function.comp_def]
  have hsettings : (Entries.names m.settings).Nodup := by
    refine List.Nodup.sublist m.settings_names ?_
    decide
  have happend : Entries.names (s.members ++ m.settings) = s.names ++ Entries.names m.settings := by
    rw [← hmembers]
    exact List.map_append
  rw [happend]
  refine List.nodup_append'.mpr ⟨hs.nodup, hsettings, ?_⟩
  intro name hname hset
  have hfree := hs.unreserved name hname
  rw [Metadata.isReserved_of_setting hset] at hfree
  cases hfree

/-- No key is written twice. -/
lemma collapse_written (hs : s.Canonical) :
    collapse (s.members ++ m.settings) = s.members ++ m.settings :=
  collapse_of_nodup (names_written_nodup hs)

/-- What is written fits, whatever the variables are, if no two font files have one name. -/
lemma membersFit_written
    (h : ∀ files, m.fontFiles = some files → (Entries.names files).Nodup) (room : Nat) :
    MembersFit (room + 1) (s.members ++ m.settings) := by
  refine membersFit_iff.mpr fun x hx => ?_
  rcases List.mem_append.mp hx with hx | hx
  · obtain ⟨e, -, rfl⟩ := List.mem_map.mp hx
    trivial
  · refine m.forall_settings (P := fun v => v.Fits (room + 1)) (fun _ => trivial)
      (m.fontSizes.fits_toValue room) (fun files hf => ?_) (fun c => c.fits_toValue room) x hx
    have hnames : Entries.names (files.map fun f => (f.1, Value.string f.2))
        = Entries.names files := by
      simp [Entries.names, Function.comp_def]
    refine ⟨hnames ▸ h files hf, membersFit_iff.mpr fun y hy => ?_⟩
    obtain ⟨f, -, rfl⟩ := List.mem_map.mp hy
    trivial

lemma fits_written (hs : s.Canonical) (hm : m.Tidy) (room : Nat) :
    (Value.object (s.members ++ m.settings)).Fits (room + 2) :=
  ⟨names_written_nodup hs, membersFit_written (fun files hf => (hm.fontFiles files hf).1) room⟩

lemma readable_written (hf : m.fontSizes.Bounded) :
    (Value.object (s.members ++ m.settings)).Readable := by
  refine membersReadable_iff.mpr fun x hx => ?_
  rcases List.mem_append.mp hx with hx | hx
  · obtain ⟨e, -, rfl⟩ := List.mem_map.mp hx
    trivial
  · refine m.forall_settings (P := Value.Readable) (fun _ => trivial)
      (FontSizes.readable_toValue hf) (fun files _ => ?_) Color.readable_toValue x hx
    refine membersReadable_iff.mpr fun y hy => ?_
    obtain ⟨f, -, rfl⟩ := List.mem_map.mp hy
    trivial

end Written

end Storyboard
