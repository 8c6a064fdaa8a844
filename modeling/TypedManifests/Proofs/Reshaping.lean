/-
Module: TypedManifests.Proofs.Reshaping
Purpose: Which data fits a type, and what reshaping does at each kind of type. A keyed list is
  reshaped like the mapping from the names of its items to their other entries, so that one rule
  covers all records.
Main exports: Fits, Fits.without, conform_optional, conform_map, conform_keyed, fits_conform_record
-/
import TypedManifests.Proofs.Parts
import TypedManifests.Proofs.SampleWalk
import TypedManifests.Reshape

namespace TypedManifests

open TypedManifests.TypeExpr

/-- The value is neither null nor a list nor a mapping. -/
def Value.IsAtom : Value → Prop
  | .null | .list _ | .map _ => False
  | _ => True

/-- Keys that are texts are different if the texts are. -/
theorem distinct_ofFields {fields : List (String × Value)} (nodup : (fields.map Prod.fst).Nodup) :
    Entries.Distinct (fields.map fun (key, value) => (.text key, value)) := by
  rw [Entries.Distinct, List.map_map]
  exact nodup

/-- Data that fits a type. Text is exactly the texts, and `admits` says which other atoms belong to
the other scalars. A record may have more entries than fields, and lacks only optional ones. -/
inductive Fits (admits : String → Value → Prop) : TypeExpr → Value → Prop where
  | text (s : String) : Fits admits (.scalar "Text") (.text s)
  | scalar {name : String} {value : Value} (other : name ≠ "Text") (atom : value.IsAtom)
      (admitted : admits name value) : Fits admits (.scalar name) value
  | null {inner : TypeExpr} : Fits admits (.optional inner) .null
  | present {inner : TypeExpr} {value : Value} (fits : Fits admits inner value) :
      Fits admits (.optional inner) value
  | list {element : TypeExpr} {items : List Value}
      (all : ∀ item ∈ items, Fits admits element item) : Fits admits (.list element) (.list items)
  | record {fields : List (String × TypeExpr)} {entries : List (Value × Value)}
      (distinct : Entries.Distinct entries)
      (present : ∀ field ∈ fields, ∀ entry ∈ entries, entry.1.keyText = field.1 →
        Fits admits field.2 entry.2)
      (absent : ∀ field ∈ fields, (∀ entry ∈ entries, entry.1.keyText ≠ field.1) →
        ∃ inner, field.2 = .optional inner) :
      Fits admits (.record fields) (.map entries)

variable {admits : String → Value → Prop}

/-- A mapping with texts as keys fits a record if its values fit the fields with these labels. -/
theorem fits_ofFields {fields : Fields} {parts : List (String × Value)}
    (nodup : (parts.map Prod.fst).Nodup)
    (present : ∀ field ∈ fields, ∀ part ∈ parts, part.1 = field.1 → Fits admits field.2 part.2)
    (absent : ∀ field ∈ fields, (∀ part ∈ parts, part.1 ≠ field.1) →
      ∃ inner, field.2 = .optional inner) :
    Fits admits (.record fields) (.ofFields parts) := by
  refine .record (distinct_ofFields nodup) ?_ ?_
  · intro field member entry entryMember same
    obtain ⟨part, partMember, rfl⟩ := List.mem_map.1 entryMember
    exact present field member part partMember same
  · intro field member missing
    refine absent field member fun part partMember => ?_
    exact missing (.text part.1, part.2) (List.mem_map.2 ⟨part, partMember, rfl⟩)

theorem keyText_of_isTextOf {key : Value} {text : String} (same : key.isTextOf text = true) :
    key.keyText = text := by
  cases key with
  | text s => simpa [Value.isTextOf, Value.keyText] using same
  | _ => simp [Value.isTextOf] at same

/-- A mapping that fits a record still does so when one label is dropped from both. -/
theorem Fits.without {fields : Fields} {entries : Entries}
    (fits : Fits admits (.record fields) (.map entries)) (label : String) :
    Fits admits (.record (TypeExpr.without fields label)) (.map (entries.without label)) := by
  cases fits with
  | record distinct present absent =>
      have kept : ∀ {entry : Value × Value}, entry ∈ entries → entry.1.keyText ≠ label →
          entry ∈ entries.without label := by
        intro entry member other
        refine List.mem_filter.2 ⟨member, ?_⟩
        simpa using fun same => other (keyText_of_isTextOf same)
      refine .record (distinct.sublist (List.filter_sublist.map _)) ?_ ?_
      · intro field member entry entryMember same
        exact present field (List.mem_filter.1 member).1 entry
          (List.mem_filter.1 entryMember).1 same
      · intro field member missing
        obtain ⟨member, other⟩ := List.mem_filter.1 member
        refine absent field member fun entry entryMember same => ?_
        exact missing entry (kept entryMember (by simpa [same] using other)) same

/-!
### Reshaping at each kind of type
-/

namespace Reshaping

variable (r : Reshaping) (label : Option String)

@[simp] theorem conform_null (t : TypeExpr) : r.conform label t .null = .null := by
  cases t <;> simp [conform]

@[simp] theorem conform_scalar (name : String) (value : Value) :
    r.conform label (.scalar name) value = value := by
  cases value <;> simp [conform]

@[simp] theorem conform_optional (t : TypeExpr) (value : Value) :
    r.conform label (.optional t) value = r.conform label t value := by
  cases value <;> simp [conform]

theorem conform_list (t : TypeExpr) (items : List Value) :
    r.conform label (.list t) (.list items) = .list (items.map (r.conform none t)) := by
  rw [conform]

/-- Where the keys have different texts, every entry is reshaped by its own key's text. -/
theorem mapEntries_of_distinct (f : String → Value → Value) : ∀ entries : Entries,
    entries.Distinct →
      mapEntries f entries = entries.map fun entry => (entry.1, f entry.1.keyText entry.2)
  | [], _ => rfl
  | (key, value) :: rest, distinct => by
      rw [Entries.Distinct, List.map_cons, List.nodup_cons] at distinct
      have last : (rest.any fun entry => entry.1.keyText = key.keyText) = false := by
        rw [List.any_eq_false]
        intro entry member same
        exact distinct.1 (List.mem_map.2 ⟨entry, member, by simpa using same⟩)
      rw [mapEntries, last, mapEntries_of_distinct f rest distinct.2]
      rfl

theorem conform_map (fields : Fields) {entries : Entries} (distinct : entries.Distinct) :
    r.conform label (.record fields) (.map entries) =
      .map (entries.map fun entry => (entry.1, r.conformAt fields entry.1.keyText entry.2)) := by
  rw [conform, mapEntries_of_distinct _ entries distinct]

/-- A part of a record is reshaped by the field with its label. -/
theorem conformAt_of_mem {t : TypeExpr} {name : String} (value : Value) : ∀ {fields : Fields},
    (labels fields).Nodup → (name, t) ∈ fields →
      r.conformAt fields name value = r.conform (some name) t value
  | (l, s) :: rest, unique, member => by
      rw [labels, List.map_cons, List.nodup_cons] at unique
      rw [conformAt]
      rcases List.mem_cons.1 member with eq | member
      · cases eq
        rw [if_pos rfl]
      · have other : l ≠ name := by
          rintro rfl
          exact unique.1 (List.mem_map.2 ⟨_, member, rfl⟩)
        rw [if_neg other]
        exact conformAt_of_mem value unique.2 member

theorem keyItems_eq_map (f : String → Value → Value) {field : String} : ∀ {items : List Value}
    {names : List String}, items.map (KeyedList.name? field) = names.map some →
      keyItems field f items =
        (SampleIndex.namedItems field items).map fun part => (.text part.1, f part.1 part.2)
  | [], _, _ => rfl
  | item :: rest, names, named => by
      cases names with
      | nil => cases named
      | cons name others =>
          simp only [List.map_cons, List.cons.injEq] at named
          have tail := keyItems_eq_map f named.2
          obtain ⟨entries, rfl, _, _⟩ := KeyedList.name?_eq_some.1 named.1
          rw [keyItems] at tail ⊢
          rw [List.filterMap_cons, tail]
          simp [SampleIndex.namedItems, named.1, Value.entries?]

/-- A keyed list is reshaped like the mapping from its names to the other entries of its items. -/
theorem conform_keyed (fields : Fields) {items : List Value} {keyed : KeyedList}
    (isKeyed : KeyedList.of? r.keyFields items = some keyed) :
    r.conform label (.record fields) (.list items) =
      r.conform label (.record fields)
        (.ofFields (SampleIndex.namedItems keyed.field items)) := by
  obtain ⟨_, _, nodup, named⟩ := KeyedList.of?_eq_some isKeyed
  rw [← SampleIndex.namedItems_names named] at nodup
  rw [Value.ofFields, conform_map r label fields (distinct_ofFields nodup), conform, isKeyed]
  simp only [keyItems_eq_map _ named, List.map_map]
  rfl

theorem conform_text (fields : Fields) (s : String) :
    r.conform label (.record fields) (.text s) = r.text label (.record fields) s := by
  rw [conform]

/-- A reshaped mapping fits a record if its entries, reshaped by the fields with their labels, fit
these fields, and only optional fields lack an entry. -/
theorem fits_conform_record {fields : Fields} {entries : Entries} (unique : (labels fields).Nodup)
    (distinct : entries.Distinct)
    (present : ∀ field ∈ fields, ∀ entry ∈ entries, entry.1.keyText = field.1 →
      Fits admits field.2 (r.conform (some field.1) field.2 entry.2))
    (absent : ∀ field ∈ fields, (∀ entry ∈ entries, entry.1.keyText ≠ field.1) →
      ∃ inner, field.2 = .optional inner) :
    Fits admits (.record fields) (r.conform label (.record fields) (.map entries)) := by
  rw [conform_map r label fields distinct]
  refine .record ?_ ?_ ?_
  · rw [Entries.Distinct, List.map_map]
    exact distinct
  · intro field member shaped shapedMember same
    obtain ⟨entry, entryMember, rfl⟩ := List.mem_map.1 shapedMember
    have here : entry.1.keyText = field.1 := same
    simp only [here, r.conformAt_of_mem entry.2 unique member]
    exact present field member entry entryMember here
  · intro field member missing
    refine absent field member fun entry entryMember => ?_
    exact missing (entry.1, r.conformAt fields entry.1.keyText entry.2)
      (List.mem_map.2 ⟨entry, entryMember, rfl⟩)

/-- A reshaped keyed list fits the record of its names if each item without its key field, reshaped
under the item's name, fits the type under this name. -/
theorem fits_conform_keyed {items : List Value} {keyed : KeyedList} {type : String → TypeExpr}
    (isKeyed : KeyedList.of? r.keyFields items = some keyed)
    (parts : ∀ part ∈ SampleIndex.namedItems keyed.field items,
      Fits admits (type part.1) (r.conform (some part.1) (type part.1) part.2)) :
    let fields := keyed.names.map fun name => (name, type name)
    Fits admits (.record fields) (r.conform label (.record fields) (.list items)) := by
  intro fields
  obtain ⟨_, _, nodup, named⟩ := KeyedList.of?_eq_some isKeyed
  have names := SampleIndex.namedItems_names named
  rw [conform_keyed r label _ isKeyed]
  refine r.fits_conform_record label ?_ (distinct_ofFields (names ▸ nodup)) ?_ ?_
  · rw [labels_names]
    exact nodup
  · intro field listed entry entryMember same
    obtain ⟨name, member, rfl⟩ := List.mem_map.1 listed
    obtain ⟨part, partMember, rfl⟩ := List.mem_map.1 entryMember
    obtain rfl : part.1 = name := same
    exact parts part partMember
  · intro field listed missing
    obtain ⟨name, member, rfl⟩ := List.mem_map.1 listed
    rw [← names] at member
    obtain ⟨part, partMember, rfl⟩ := List.mem_map.1 member
    exact absurd rfl (missing (.text part.1, part.2) (List.mem_map.2 ⟨part, partMember, rfl⟩))

end Reshaping

end TypedManifests
