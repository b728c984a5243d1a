import Storyboard.Document.Basic
import Storyboard.Proofs.Document.ElementEntry

/-!
# Reading written documents

A document with a list of scenes is read back from its text, whatever blanks follow it.
-/

namespace Storyboard

open Json

namespace SceneEntry

lemma find?_name (f : Field) : fields.find? (fields.name f) = some f := by
  cases f <;> rfl

variable (s : SceneEntry)

/-- The scene that is read back from a written one. -/
def reread : SceneEntry :=
  { s with elements := s.elements.map (·.reread) }

/-- What is read of a written scene, field by field. -/
def rereadPart : Field → Part
  | .name => .name s.name
  | .elements => .elements (s.elements.map (·.reread))

/-- A scene is read back from what it writes. -/
lemma reader_toValue (room : Nat) : reader (room + 3) (.ofValue s.toValue) = .ok s.reread := by
  have helements : ElementEntry.reader.list (room + 2)
      (.ofValue (.array (s.elements.map (·.toValue)))) = .ok (s.elements.map (·.reread)) :=
    Reader.list_written fun e _ => e.reader_toValue room
  have htable : fields.table (room + 3) (.ofValue s.toValue)
      = .ok [(.name, .name s.name), (.elements, .elements (s.elements.map (·.reread)))] := by
    refine fields.table_written (t := [(.name, .string s.name), (.elements, .array _)])
      (g := fun m => s.rereadPart m.1) find?_name ?_ (by simp)
    intro m hm
    simp only [List.mem_cons, List.not_mem_nil, or_false] at hm
    rcases hm with rfl | rfl
    · rfl
    · simp [fields, helements, Except.map, rereadPart]
  simp [reader, htable, Except.map, take, reread]

lemma readable (h : ∀ e ∈ s.elements, e.Legible) : s.toValue.Readable := by
  have hitems : ItemsReadable (s.elements.map (·.toValue)) := by
    refine itemsReadable_iff.mpr fun v hv => ?_
    obtain ⟨e, he, rfl⟩ := List.mem_map.mp hv
    exact (h e he).readable
  exact ⟨trivial, hitems, trivial⟩

/-- The numbers of a part are in range. -/
def PartInRange : Field → Part → Prop
  | _, .name _ => True
  | _, .elements es => ∀ e ∈ es, e.InRange

lemma yields_part (f : Field) : Reader.Yields (fields.read f) (PartInRange f) := by
  intro room d a ha
  cases f with
  | name =>
    obtain ⟨v, -, rfl⟩ := map_eq_ok.mp ha
    trivial
  | elements =>
    obtain ⟨es, hes, rfl⟩ := map_eq_ok.mp ha
    exact Reader.Yields.list ElementEntry.yields_reader hes

lemma yields_reader : Reader.Yields reader fun s => ∀ e ∈ s.elements, e.InRange := by
  refine Fields.yields_fold yields_part ?_ ?_
  · simp
  · intro s f part hs hpart
    cases part with
    | name n => exact hs
    | elements es => exact hpart

end SceneEntry

namespace Document

lemma find?_name (f : Field) : fields.find? (fields.name f) = some f := by
  cases f <;> rfl

variable (doc : Document)

/-- The document that is read back from a written one. -/
def reread : Document :=
  { doc with scenes := doc.scenes.map (·.map (·.reread)) }

lemma text_string (s : String) : text (.string s) = s := rfl

/-- What a document writes, field by field. -/
def table : List (Field × Value) :=
  [(.title, .string doc.title), (.author, .string doc.author),
    (.description, .string doc.description), (.vars, .object doc.vars),
    (.scenes, match doc.scenes with
      | none => .null
      | some ss => .array (ss.map (·.toValue)))]

/-- What is read of a written document with a list of scenes, field by field. -/
def rereadPart (ss : List SceneEntry) : Field → Part
  | .title => .title doc.title
  | .author => .author doc.author
  | .description => .description doc.description
  | .vars => .vars doc.vars
  | .scenes => .scenes (some (ss.map (·.reread)))

lemma reader_toValue {room : Nat} {ss : List SceneEntry} (hs : doc.scenes = some ss)
    (hvars : (Value.object doc.vars).Fits (room + 4)) :
    reader (room + 5) (.ofValue doc.toValue) = .ok doc.reread := by
  have hstring (s : String) : Reader.value (room + 4) (.ofValue (.string s)) = .ok (.string s) :=
    rfl
  have hread : Reader.value (room + 4) (.ofValue (.object doc.vars)) = .ok (.object doc.vars) :=
    Draft.value_ofValue _ _ hvars
  have hscenes : SceneEntry.reader.list.option (room + 4)
      (.ofValue (.array (ss.map (·.toValue)))) = .ok (some (ss.map (·.reread))) := by
    have hlist : SceneEntry.reader.list (room + 4) (.ofValue (.array (ss.map (·.toValue))))
        = .ok (ss.map (·.reread)) :=
      Reader.list_written fun s _ => s.reader_toValue room
    rw [Draft.ofValue] at hlist ⊢
    simp only [Reader.option, hlist, Except.map]
  have hvalue : doc.toValue = .object (doc.table.map fun m => (fields.name m.1, m.2)) := rfl
  have hpart : ∀ m ∈ doc.table, fields.read m.1 (room + 4) (.ofValue m.2)
      = .ok (doc.rereadPart ss m.1) := by
    intro m hm
    simp only [table, hs, List.mem_cons, List.not_mem_nil, or_false] at hm
    rcases hm with rfl | rfl | rfl | rfl | rfl
    · simp only [fields, hstring, Except.map, text_string, rereadPart]
    · simp only [fields, hstring, Except.map, text_string, rereadPart]
    · simp only [fields, hstring, Except.map, text_string, rereadPart]
    · simp only [fields, hread, Except.map, membersOf, rereadPart]
    · simp only [fields, hscenes, Except.map, rereadPart]
  rw [reader, hvalue, fields.table_written find?_name hpart (by simp [table])]
  simp [Except.map, table, rereadPart, take, reread, hs]

lemma readable {ss : List SceneEntry} (hs : doc.scenes = some ss)
    (hvars : (Value.object doc.vars).Readable) (h : ∀ s ∈ ss, ∀ e ∈ s.elements, e.Legible) :
    doc.toValue.Readable := by
  have hitems : ItemsReadable (ss.map (·.toValue)) := by
    refine itemsReadable_iff.mpr fun v hv => ?_
    obtain ⟨s, hs, rfl⟩ := List.mem_map.mp hv
    exact s.readable (h s hs)
  rw [toValue, hs]
  exact ⟨trivial, trivial, trivial, hvars, hitems, trivial⟩

/-- A document is read back from its text with blanks after it. -/
theorem ofText_toText {ss : List SceneEntry} (hs : doc.scenes = some ss)
    (hfits : (Value.object doc.vars).Fits 126) (hvars : (Value.object doc.vars).Readable)
    (h : ∀ s ∈ ss, ∀ e ∈ s.elements, e.Legible) {rest : String}
    (hr : Delimited rest.toList) (ht : tokens rest.toList = []) :
    ofText (doc.toText ++ rest) = .ok doc.reread := by
  have htext : doc.toText ++ rest = .ofList (doc.toValue.chars .pretty 0 ++ rest.toList) := by
    simp [toText, Value.pretty, String.ofList_append]
  have hread : reader nesting (.ofValue doc.toValue) = .ok doc.reread :=
    doc.reader_toValue hs hfits
  rw [ofText, Reader.read, htext,
    Draft.ofText_chars .pretty (doc.readable hs hvars h) hr ht]
  simp [hread, bind, Except.bind, pure, Except.pure]

/-- What every document that is read has: an object of variables without repeated keys, and
numbers in range. -/
structure Readable (doc : Document) : Prop where
  vars : ∃ room, MembersFit room doc.vars
  scenes : ∀ ss, doc.scenes = some ss → ∀ s ∈ ss, ∀ e ∈ s.elements, e.InRange

/-- What a part adds to a readable document. -/
def PartReadable : Field → Part → Prop
  | _, .vars ms => ∃ room, MembersFit room ms
  | _, .scenes o => ∀ ss, o = some ss → ∀ s ∈ ss, ∀ e ∈ s.elements, e.InRange
  | _, _ => True

lemma yields_part (f : Field) : Reader.Yields (fields.read f) (PartReadable f) := by
  intro room d a ha
  cases f with
  | vars =>
    obtain ⟨v, hv, rfl⟩ := map_eq_ok.mp ha
    have hfits := Draft.fits_of_value hv
    cases v with
    | object ms =>
      cases room with
      | zero => exact hfits.elim
      | succ room => exact ⟨room, hfits.2⟩
    | _ => exact ⟨0, trivial⟩
  | scenes =>
    obtain ⟨o, ho, rfl⟩ := map_eq_ok.mp ha
    exact Reader.Yields.option (Reader.Yields.list SceneEntry.yields_reader) ho
  | _ =>
    obtain ⟨v, -, rfl⟩ := map_eq_ok.mp ha
    trivial

lemma yields_reader : Reader.Yields reader Readable := by
  refine Fields.yields_fold yields_part ?_ ?_
  · exact ⟨⟨0, trivial⟩, by simp⟩
  · intro doc f part hdoc hpart
    cases part with
    | vars ms => exact ⟨hpart, hdoc.scenes⟩
    | scenes o => exact ⟨hdoc.vars, hpart⟩
    | _ => exact ⟨hdoc.vars, hdoc.scenes⟩

/-- A text gives a readable document or none. -/
theorem readable_of_ofText {text : String} {doc : Document} (h : ofText text = .ok doc) :
    doc.Readable :=
  yields_reader.read h

end Document

end Storyboard
