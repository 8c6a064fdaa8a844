/-
Module: TypedManifests.Proofs.Sharing
Purpose: What stands in a document, and where. A document agrees with itself if mappings with one
  mark are the same; so does every value in which everything stands once, as its marks tell places.
Main exports: Document.parts, Document.entryMarks, Document.Agrees, Document.get?_entryValues,
  Document.exists_split_of_get?, Value.at?, Document.exists_at?_of_mem_parts,
  Document.agrees_ofValue
-/
import TypedManifests.Document
import TypedManifests.Proofs.ReshapedParts

namespace TypedManifests

namespace Document

variable {entries : List (Value × Document)} {key : String} {d part : Document}

/-!
### Values of documents
-/

theorem values_eq_map : ∀ items : List Document, values items = items.map value
  | [] => rfl
  | item :: rest => by rw [values, values_eq_map rest, List.map_cons]

theorem entryValues_eq_map : ∀ entries : List (Value × Document),
    entryValues entries = entries.map fun entry => (entry.1, entry.2.value)
  | [] => rfl
  | (key, inner) :: rest => by rw [entryValues, entryValues_eq_map rest, List.map_cons]

theorem entryValues_split (before after : List (Value × Document)) (key : Value) (d : Document) :
    entryValues (before ++ (key, d) :: after) =
      entryValues before ++ (key, d.value) :: entryValues after := by
  simp [entryValues_eq_map]

/-- What is found under a key is told by the keys alone. -/
theorem get?_map (f : Document → Value) :
    Entries.get? (entries.map fun entry => (entry.1, f entry.2)) key =
      (get? entries key).map f := by
  rw [Entries.get?, List.find?_map, get?, Option.map_map, Option.map_map]
  rfl

theorem get?_entryValues : (entryValues entries).get? key = (get? entries key).map value := by
  rw [entryValues_eq_map, get?_map]

theorem get?_entryValues_eq_none (absent : get? entries key = none) :
    (entryValues entries).get? key = none := by
  rw [get?_entryValues, absent, Option.map_none]

/-- What is found under a key stands in the first entry that has it. -/
theorem exists_split_of_get? (found : get? entries key = some d) :
    ∃ before after, entries = before ++ (.text key, d) :: after ∧ get? before key = none := by
  obtain ⟨⟨label, inner⟩, first, rfl⟩ := Option.map_eq_some_iff.1 found
  obtain ⟨here, before, after, split, earlier⟩ := List.find?_eq_some_iff_append.1 first
  obtain rfl : label = .text key := Value.isTextOf_iff.1 here
  refine ⟨before, after, split, ?_⟩
  rw [get?, List.find?_eq_none.2 fun entry member => by simpa using earlier entry member]
  rfl

/-!
### The parts of a document
-/

mutual

/-- The document and all that stands in it. -/
def parts : Document → List Document
  | .scalar v => [.scalar v]
  | .list mark items => .list mark items :: itemParts items
  | .map mark entries => .map mark entries :: entryParts entries

def itemParts : List Document → List Document
  | [] => []
  | item :: rest => parts item ++ itemParts rest

def entryParts : List (Value × Document) → List Document
  | [] => []
  | (_, inner) :: rest => parts inner ++ entryParts rest

end

theorem itemParts_eq_flatMap : ∀ items : List Document, itemParts items = items.flatMap parts
  | [] => rfl
  | item :: rest => by rw [itemParts, itemParts_eq_flatMap rest, List.flatMap_cons]

theorem entryParts_eq_flatMap : ∀ entries : List (Value × Document),
    entryParts entries = entries.flatMap fun entry => entry.2.parts
  | [] => rfl
  | (key, inner) :: rest => by rw [entryParts, entryParts_eq_flatMap rest, List.flatMap_cons]

theorem self_mem_parts : d ∈ d.parts := by
  cases d <;> simp [parts]

theorem mem_entryParts_of_get? (found : get? entries key = some d) (inside : part ∈ d.parts) :
    part ∈ entryParts entries := by
  obtain ⟨before, after, rfl, -⟩ := exists_split_of_get? found
  rw [entryParts_eq_flatMap]
  exact List.mem_flatMap.2 ⟨_, List.mem_append_right _ List.mem_cons_self, inside⟩

/-- The mark of a mapping. -/
def mappingMark? : Document → Option Mark
  | .map mark _ => some mark
  | _ => none

/-- The marks of all mappings among some documents, as often as these stand there. -/
def mappingMarks (ds : List Document) : List Mark := ds.filterMap mappingMark?

/-- The marks of all mappings in the values of entries. -/
def entryMarks (entries : List (Value × Document)) : List Mark := mappingMarks (entryParts entries)

theorem mem_entryMarks {mark : Mark} {inside : List (Value × Document)}
    (member : .map mark inside ∈ entryParts entries) : mark ∈ entryMarks entries :=
  List.mem_filterMap.2 ⟨_, member, rfl⟩

theorem mappingMarks_list (mark : Mark) (items : List Document) :
    mappingMarks (parts (.list mark items)) = mappingMarks (itemParts items) := rfl

theorem mappingMarks_map (mark : Mark) (entries : List (Value × Document)) :
    mappingMarks (parts (.map mark entries)) = mark :: entryMarks entries := rfl

theorem entryMarks_split (before after : List (Value × Document)) (key : Value) (d : Document) :
    entryMarks (before ++ (key, d) :: after) =
      entryMarks before ++ (mappingMarks d.parts ++ entryMarks after) := by
  simp [entryMarks, mappingMarks, entryParts_eq_flatMap]

/-- The document is one that can be read: what is taken to be without parts is no list and no
mapping, and two mappings with one mark are the same. -/
structure Agrees (d : Document) : Prop where
  plain : ∀ {v : Value}, .scalar v ∈ d.parts →
    (∀ items, v ≠ .list items) ∧ ∀ entries, v ≠ .map entries
  same : ∀ {mark : Mark} {entries entries' : List (Value × Document)},
    .map mark entries ∈ d.parts → .map mark entries' ∈ d.parts →
      entryValues entries = entryValues entries'

/-- In a document that can be read, what has a list for its value is a list. -/
theorem Agrees.exists_list {items : List Value} (agrees : d.Agrees) (inside : part ∈ d.parts)
    (value_eq : part.value = .list items) :
    ∃ mark items', part = .list mark items' ∧ values items' = items := by
  cases part with
  | scalar v => exact absurd value_eq ((agrees.plain inside).1 items)
  | list mark items' => exact ⟨mark, items', rfl, by simpa [value] using value_eq⟩
  | map mark entries => simp [value] at value_eq

/-- In a document that can be read, what has a mapping for its value is a mapping. -/
theorem Agrees.exists_map {entries : Entries} (agrees : d.Agrees) (inside : part ∈ d.parts)
    (value_eq : part.value = .map entries) :
    ∃ mark entries', part = .map mark entries' ∧ entryValues entries' = entries := by
  cases part with
  | scalar v => exact absurd value_eq ((agrees.plain inside).2 entries)
  | list mark items => simp [value] at value_eq
  | map mark entries' => exact ⟨mark, entries', rfl, by simpa [value] using value_eq⟩

end Document

/-!
### A value in which everything stands once
-/

/-- What stands at a place in the value: a place is the way to it, one index for each level. -/
def Value.at? : List Nat → Value → Option Value
  | [], v => some v
  | index :: place, .list items => items[index]?.bind (at? place)
  | index :: place, .map entries => entries[index]?.bind fun entry => at? place entry.2
  | _ :: _, _ => none

namespace Document

/-- Items have their values back if each of them has. -/
theorem values_ofItemsAt {items : List Value} {place : Mark} (index : Nat)
    (each : ∀ item ∈ items, ∀ place, (ofValueAt place item).value = item) :
    values (ofItemsAt place index items) = items := by
  induction items generalizing index with
  | nil => rfl
  | cons item rest ih =>
      rw [ofItemsAt, values, each item List.mem_cons_self,
        ih (index + 1) fun other member => each other (List.mem_cons_of_mem _ member)]

theorem entryValues_ofEntriesAt {entries : Entries} {place : Mark} (index : Nat)
    (each : ∀ entry ∈ entries, ∀ place, (ofValueAt place entry.2).value = entry.2) :
    entryValues (ofEntriesAt place index entries) = entries := by
  induction entries generalizing index with
  | nil => rfl
  | cons entry rest ih =>
      rw [ofEntriesAt, entryValues, each entry List.mem_cons_self,
        ih (index + 1) fun other member => each other (List.mem_cons_of_mem _ member)]

theorem value_ofValueAt (place : Mark) (v : Value) : (ofValueAt place v).value = v := by
  induction v using Value.byItems generalizing place with
  | plain v isPlain => cases v <;> first | rfl | exact isPlain.elim
  | text s => rfl
  | list items each _ => rw [ofValueAt, value, values_ofItemsAt 0 each]
  | map entries each => rw [ofValueAt, value, entryValues_ofEntriesAt 0 each]

/-- What stands in items stands in one of them, which has its index in its marks. -/
theorem exists_item_of_mem_itemParts {items : List Value} {place : Mark} {index : Nat}
    (member : part ∈ itemParts (ofItemsAt place index items)) :
    ∃ i item, items[i]? = some item ∧ part ∈ (ofValueAt (place ++ [index + i]) item).parts := by
  induction items generalizing index with
  | nil => cases member
  | cons item rest ih =>
      rw [ofItemsAt, itemParts, List.mem_append] at member
      rcases member with here | later
      · exact ⟨0, item, rfl, here⟩
      · obtain ⟨i, other, nth, inside⟩ := ih later
        exact ⟨i + 1, other, nth, by rwa [Nat.add_right_comm] at inside⟩

theorem exists_entry_of_mem_entryParts {entries : Entries} {place : Mark} {index : Nat}
    (member : part ∈ entryParts (ofEntriesAt place index entries)) :
    ∃ i entry, entries[i]? = some entry ∧
      part ∈ (ofValueAt (place ++ [index + i]) entry.2).parts := by
  induction entries generalizing index with
  | nil => cases member
  | cons entry rest ih =>
      rw [ofEntriesAt, entryParts, List.mem_append] at member
      rcases member with here | later
      · exact ⟨0, entry, rfl, here⟩
      · obtain ⟨i, other, nth, inside⟩ := ih later
        exact ⟨i + 1, other, nth, by rwa [Nat.add_right_comm] at inside⟩

/-- Whatever stands in it stands at a place of the value, and has its marks from there. -/
theorem exists_at?_of_mem_parts {v : Value} {place : Mark}
    (member : part ∈ (ofValueAt place v).parts) :
    ∃ below inner, v.at? below = some inner ∧ part = ofValueAt (place ++ below) inner := by
  induction v using Value.byItems generalizing place with
  | plain v isPlain =>
      refine ⟨[], v, rfl, ?_⟩
      rw [List.append_nil]
      cases v <;> first | exact List.mem_singleton.1 member | exact isPlain.elim
  | text s => exact ⟨[], .text s, rfl, List.mem_singleton.1 member⟩
  | list items each _ =>
      rw [ofValueAt, parts, List.mem_cons] at member
      rcases member with rfl | member
      · exact ⟨[], .list items, rfl, by rw [List.append_nil, ofValueAt]⟩
      · obtain ⟨i, item, nth, inside⟩ := exists_item_of_mem_itemParts member
        obtain ⟨below, inner, found, rfl⟩ := each item (List.mem_of_getElem? nth) inside
        refine ⟨i :: below, inner, by simp [Value.at?, nth, found], ?_⟩
        rw [Nat.zero_add, List.append_assoc, List.singleton_append]
  | map entries each =>
      rw [ofValueAt, parts, List.mem_cons] at member
      rcases member with rfl | member
      · exact ⟨[], .map entries, rfl, by rw [List.append_nil, ofValueAt]⟩
      · obtain ⟨i, entry, nth, inside⟩ := exists_entry_of_mem_entryParts member
        obtain ⟨below, inner, found, rfl⟩ := each entry (List.mem_of_getElem? nth) inside
        refine ⟨i :: below, inner, by simp [Value.at?, nth, found], ?_⟩
        rw [Nat.zero_add, List.append_assoc, List.singleton_append]

theorem eq_map_of_ofValueAt {place mark : Mark} {v : Value} {entries : List (Value × Document)}
    (made : ofValueAt place v = .map mark entries) :
    mark = place ∧ v = .map (entryValues entries) := by
  have value_eq : v = .map (entryValues entries) := by
    rw [← value_ofValueAt place v, made, value]
  refine ⟨?_, value_eq⟩
  rw [value_eq, ofValueAt] at made
  exact (Document.map.inj made).1.symm

theorem agrees_ofValue (v : Value) : (ofValue v).Agrees where
  plain {w} member := by
    obtain ⟨below, inner, -, made⟩ := exists_at?_of_mem_parts member
    cases inner <;> simp_all [ofValueAt]
  same {mark entries entries'} first second := by
    obtain ⟨below, inner, found, made⟩ := exists_at?_of_mem_parts first
    obtain ⟨below', inner', found', made'⟩ := exists_at?_of_mem_parts second
    obtain ⟨here, rfl⟩ := eq_map_of_ofValueAt made.symm
    obtain ⟨there, rfl⟩ := eq_map_of_ofValueAt made'.symm
    obtain rfl : below = below' := here.symm.trans there
    simpa using found.symm.trans found'

end Document

end TypedManifests
