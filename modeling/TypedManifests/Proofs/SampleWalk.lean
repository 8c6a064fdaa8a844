/-
Module: TypedManifests.Proofs.SampleWalk
Purpose: What the index of a sample says. The index is one table of paths that is filled while the
  sample is walked; its entry at a path is the keyed list that one finds by following the path
  through the sample. Where the keys of a mapping have different texts there is only one way to
  follow it.
Main exports: KeyedList.of?_eq_some, keyedAt, lookup_ofValue, of?_of_keyedAt, children,
  keyedAt_cons, Agrees, Reaches
-/
import Mathlib.Data.List.Basic
import TypedManifests.SampleIndex

namespace TypedManifests

/-!
### Keyed lists
-/

namespace KeyedList

/-- An item has a name if it is a mapping with a text that may be a label under the key field. -/
theorem name?_eq_some {field name : String} {item : Value} :
    name? field item = some name ↔
      ∃ entries : Entries, item = .map entries ∧ entries.get? field = some (.text name) ∧
        isName name = true := by
  constructor
  · intro named
    simp only [name?, Option.bind_eq_bind, Option.bind_eq_some_iff] at named
    obtain ⟨entries, isMap, value, got, text, isText, named⟩ := named
    split at named
    · next usable =>
      cases named
      cases item with
      | map _ =>
          cases isMap
          cases value with
          | text _ =>
              cases isText
              exact ⟨entries, rfl, got, usable⟩
          | _ => cases isText
      | _ => cases isMap
    · cases named
  · rintro ⟨entries, rfl, got, usable⟩
    simp [name?, Value.entries?, got, Value.text?, usable]

theorem mapM_eq_some {α β : Type} (f : α → Option β) : ∀ (items : List α) (results : List β),
    items.mapM f = some results ↔ items.map f = results.map some
  | [], results => by
      cases results <;> simp
  | item :: rest, results => by
      rw [List.mapM_cons]
      cases results with
      | nil =>
          cases f item <;> simp
          cases rest.mapM f <;> simp
      | cons result others =>
          cases first : f item with
          | none => simp [first]
          | some value =>
              have tail := mapM_eq_some f rest others
              cases more : rest.mapM f with
              | none => simp_all
              | some values => simp_all

/-- The names of a keyed list are those of its items, in their order, and all different. -/
theorem of?_eq_some {keyFields : List String} {items : List Value} {keyed : KeyedList}
    (h : of? keyFields items = some keyed) :
    keyed.field ∈ keyFields ∧ keyed.names ≠ [] ∧ keyed.names.Nodup ∧
      items.map (name? keyed.field) = keyed.names.map some := by
  rw [of?] at h
  split at h
  · cases h
  · next nonempty =>
    obtain ⟨field, member, found⟩ := List.exists_of_findSome?_eq_some h
    obtain ⟨names, named, rfl⟩ := Option.map_eq_some_iff.1 found
    rw [names?, Option.filter_eq_some_iff, mapM_eq_some, decide_eq_true_eq] at named
    refine ⟨member, ?_, named.2, named.1⟩
    rintro rfl
    simp_all

/-- The names of a keyed list may be labels. -/
theorem isName_of_of? {keyFields : List String} {items : List Value} {keyed : KeyedList}
    (h : of? keyFields items = some keyed) : ∀ name ∈ keyed.names, isName name = true := by
  intro name member
  obtain ⟨_, _, _, named⟩ := of?_eq_some h
  have listed : some name ∈ items.map (name? keyed.field) := by
    rw [named]
    exact List.mem_map_of_mem member
  obtain ⟨item, _, named⟩ := List.mem_map.1 listed
  obtain ⟨_, _, _, usable⟩ := name?_eq_some.1 named
  exact usable

end KeyedList

/-- The texts of all keys are different, so that each label leads to at most one entry. -/
def Entries.Distinct (entries : Entries) : Prop :=
  (entries.map fun entry => entry.1.keyText).Nodup

/-!
### Following a path
-/

namespace SampleIndex

mutual

/-- The keyed list to which a path leads through a value. Of several keys with the same text the
last one counts that leads to such a list. -/
def keyedAt (keyFields : List String) : Value → LabelPath → Option KeyedList
  | .map entries, path => keyedInEntries keyFields none entries path
  | .list items, path =>
    match KeyedList.of? keyFields items with
    | none => none
    | some keyed => if path = [] then some keyed else keyedInItems keyFields keyed.field items path
  | _, _ => none

def keyedInEntries (keyFields : List String) (skipped : Option String) :
    List (Value × Value) → LabelPath → Option KeyedList
  | [], _ => none
  | (key, value) :: rest, path =>
    (keyedInEntries keyFields skipped rest path).or
      (if skipped.any key.isTextOf then none
        else ([key.keyText].isPrefixOf? path).bind (keyedAt keyFields value))

def keyedInItems (keyFields : List String) (field : String) :
    List Value → LabelPath → Option KeyedList
  | [], _ => none
  | .map entries :: rest, path =>
    (keyedInItems keyFields field rest path).or
      (([(KeyedList.name? field (.map entries)).getD ""].isPrefixOf? path).bind
        (keyedInEntries keyFields (some field) entries))
  | _ :: rest, path => keyedInItems keyFields field rest path

end

/-!
### The table

Walking a value at `front` changes the table only at paths that begin with `front`, and there to
what the rest of the path finds in the value. The induction is on the value.
-/

theorem isPrefixOf?_append : ∀ (front back path : LabelPath),
    (front ++ back).isPrefixOf? path = (front.isPrefixOf? path).bind back.isPrefixOf?
  | [], _, _ => rfl
  | _ :: _, _, [] => rfl
  | label :: front, back, other :: path => by
      simp only [List.cons_append, List.isPrefixOf?]
      split
      · exact isPrefixOf?_append front back path
      · rfl

theorem lookup_addKeyed (path other : LabelPath) (list : KeyedList) (index : SampleIndex) :
    (index.addKeyed path list).lookup other =
      if path = other then some list else index.lookup other := by
  obtain ⟨keyed, unknown⟩ := index
  simp only [addKeyed, lookup]
  induction keyed with
  | nil => by_cases same : path = other <;> simp [insert, same]
  | cons entry rest ih =>
      rw [insert]
      by_cases here : entry.1 = path
      · by_cases same : path = other <;> simp [here, same]
      · by_cases found : entry.1 = other
        · have different : path ≠ other := fun same => here (found.trans same.symm)
          rw [if_neg here, if_neg different]
          simp [found]
        · simpa [here, found] using ih

theorem lookup_addUnknown (path other : LabelPath) (index : SampleIndex) :
    (index.addUnknown path).lookup other = index.lookup other := by
  rw [addUnknown]
  split <;> rfl

theorem keyedInItems_nil (keyFields : List String) (field : String) : ∀ items : List Value,
    keyedInItems keyFields field items [] = none
  | [] => by rw [keyedInItems]
  | item :: rest => by
      have others := keyedInItems_nil keyFields field rest
      cases item <;> simpa [keyedInItems, List.isPrefixOf?] using others

mutual

theorem lookup_addValue (keyFields : List String) : ∀ (value : Value) (front path : LabelPath)
    (index : SampleIndex),
    (addValue keyFields front value index).lookup path =
      ((front.isPrefixOf? path).bind (keyedAt keyFields value)).or (index.lookup path)
  | .map entries, front, path, index => by
      rw [addValue, lookup_addEntries keyFields entries none front path index]
      simp only [keyedAt]
  | .list items, front, path, index => by
      rw [addValue]
      cases keyed : KeyedList.of? keyFields items with
      | none => simp [keyedAt, keyed, lookup_addUnknown]
      | some list =>
          simp only
          rw [lookup_addItems keyFields items list.field front path, lookup_addKeyed]
          by_cases here : front = path
          · have whole : front.isPrefixOf? path = some [] := by
              rw [List.isPrefixOf?_eq_some_iff_append_eq, List.append_nil, here]
            rw [whole, if_pos here]
            simp [keyedAt, keyed, keyedInItems_nil]
          · cases split : front.isPrefixOf? path with
            | none => simp [here]
            | some rest =>
                have more : rest ≠ [] := by
                  rintro rfl
                  rw [List.isPrefixOf?_eq_some_iff_append_eq, List.append_nil] at split
                  exact here split
                simp [keyedAt, keyed, more, here]
  | .null, _, _, _ | .bool _, _, _, _ | .int _, _, _, _ | .float _, _, _, _ | .text _, _, _, _
  | .date _, _, _, _ | .time _, _, _, _ => by simp [addValue, keyedAt]

theorem lookup_addEntries (keyFields : List String) : ∀ (entries : List (Value × Value))
    (skipped : Option String) (front path : LabelPath) (index : SampleIndex),
    (addEntries keyFields skipped front entries index).lookup path =
      ((front.isPrefixOf? path).bind (keyedInEntries keyFields skipped entries)).or
        (index.lookup path)
  | [], _, front, path, index => by
      simp [addEntries, keyedInEntries]
  | (key, value) :: rest, skipped, front, path, index => by
      rw [addEntries]
      split
      · next skip =>
        rw [lookup_addEntries keyFields rest skipped front path index]
        simp [keyedInEntries, skip]
      · next keep =>
        rw [lookup_addEntries keyFields rest skipped front path,
          lookup_addValue keyFields value (front ++ [key.keyText]) path index, isPrefixOf?_append]
        cases front.isPrefixOf? path <;> simp [keyedInEntries, keep, Option.or_assoc]

theorem lookup_addItems (keyFields : List String) : ∀ (items : List Value) (field : String)
    (front path : LabelPath) (index : SampleIndex),
    (addItems keyFields field front items index).lookup path =
      ((front.isPrefixOf? path).bind (keyedInItems keyFields field items)).or (index.lookup path)
  | [], _, front, path, index => by
      simp [addItems, keyedInItems]
  | .map entries :: rest, field, front, path, index => by
      rw [addItems, lookup_addItems keyFields rest field front path,
        lookup_addEntries keyFields entries (some field) _ path index, isPrefixOf?_append]
      cases front.isPrefixOf? path <;> simp [keyedInItems, Option.or_assoc]
  | .null :: rest, field, front, path, index | .bool _ :: rest, field, front, path, index
  | .int _ :: rest, field, front, path, index | .float _ :: rest, field, front, path, index
  | .text _ :: rest, field, front, path, index | .date _ :: rest, field, front, path, index
  | .time _ :: rest, field, front, path, index | .list _ :: rest, field, front, path, index => by
      simp only [addItems, keyedInItems]
      exact lookup_addItems keyFields rest field front path index

end

/-- The index of a sample has at a path the keyed list to which the path leads through the sample.
-/
theorem lookup_ofValue (keyFields : List String) (sample : Value) (path : LabelPath) :
    (ofValue keyFields sample).lookup path = keyedAt keyFields sample path := by
  rw [ofValue, lookup_addValue]
  simp [List.isPrefixOf?, lookup, empty]

mutual

/-- What a path leads to is how some list is keyed. -/
theorem of?_of_keyedAt (keyFields : List String) : ∀ (value : Value) {path : LabelPath}
    {keyed : KeyedList}, keyedAt keyFields value path = some keyed →
      ∃ items, KeyedList.of? keyFields items = some keyed
  | .map entries, _, _, found => by
      rw [keyedAt] at found
      exact of?_of_keyedInEntries keyFields entries found
  | .list items, path, keyed, found => by
      rw [keyedAt] at found
      split at found
      · cases found
      · next list isKeyed =>
        split at found
        · cases found
          exact ⟨items, isKeyed⟩
        · exact of?_of_keyedInItems keyFields items found
  | .null, _, _, found | .bool _, _, _, found | .int _, _, _, found | .float _, _, _, found
  | .text _, _, _, found | .date _, _, _, found | .time _, _, _, found => by
      simp [keyedAt] at found

theorem of?_of_keyedInEntries (keyFields : List String) : ∀ (entries : List (Value × Value))
    {skipped : Option String} {path : LabelPath} {keyed : KeyedList},
    keyedInEntries keyFields skipped entries path = some keyed →
      ∃ items, KeyedList.of? keyFields items = some keyed
  | [], _, _, _, found => by simp [keyedInEntries] at found
  | (key, value) :: rest, skipped, path, keyed, found => by
      rw [keyedInEntries, Option.or_eq_some_iff] at found
      rcases found with found | ⟨_, found⟩
      · exact of?_of_keyedInEntries keyFields rest found
      · split at found
        · cases found
        · obtain ⟨_, _, found⟩ := Option.bind_eq_some_iff.1 found
          exact of?_of_keyedAt keyFields value found

theorem of?_of_keyedInItems (keyFields : List String) : ∀ (items : List Value) {field : String}
    {path : LabelPath} {keyed : KeyedList}, keyedInItems keyFields field items path = some keyed →
      ∃ items, KeyedList.of? keyFields items = some keyed
  | [], _, _, _, found => by simp [keyedInItems] at found
  | .map entries :: rest, field, path, keyed, found => by
      rw [keyedInItems, Option.or_eq_some_iff] at found
      rcases found with found | ⟨_, found⟩
      · exact of?_of_keyedInItems keyFields rest found
      · obtain ⟨_, _, found⟩ := Option.bind_eq_some_iff.1 found
        exact of?_of_keyedInEntries keyFields entries found
  | .null :: rest, _, _, _, found | .bool _ :: rest, _, _, _, found
  | .int _ :: rest, _, _, _, found | .float _ :: rest, _, _, _, found
  | .text _ :: rest, _, _, _, found | .date _ :: rest, _, _, _, found
  | .time _ :: rest, _, _, _, found | .list _ :: rest, _, _, _, found => by
      rw [keyedInItems] at found
      · exact of?_of_keyedInItems keyFields rest found
      · simp

end

/-!
### One step at a time

The labels that lead out of a value: the texts of a mapping's keys, the names of a keyed list's
items. If they are pairwise different, a path that begins with one of them goes on in the part that
it leads to.
-/

/-- Each item of a keyed list without its key field, under its name. -/
def namedItems (field : String) : List Value → List (String × Value)
  | [] => []
  | .map entries :: rest =>
    ((KeyedList.name? field (.map entries)).getD "", .map (Entries.without entries field)) ::
      namedItems field rest
  | _ :: rest => namedItems field rest

/-- The parts of a value under the labels that lead to them. -/
def children (keyFields : List String) : Value → List (String × Value)
  | .map entries => entries.map fun entry => (entry.1.keyText, entry.2)
  | .list items =>
    match KeyedList.of? keyFields items with
    | none => []
    | some keyed => namedItems keyed.field items
  | _ => []

/-- No two labels that lead out of the value are the same. -/
def Unambiguous (keyFields : List String) (value : Value) : Prop :=
  ((children keyFields value).map Prod.fst).Nodup

theorem namedItems_names {field : String} : ∀ {items : List Value} {names : List String},
    items.map (KeyedList.name? field) = names.map some →
      (namedItems field items).map Prod.fst = names
  | [], names, named => by
      cases names with
      | nil => rfl
      | cons _ _ => cases named
  | item :: rest, names, named => by
      cases names with
      | nil => cases named
      | cons name others =>
          simp only [List.map_cons, List.cons.injEq] at named
          obtain ⟨entries, rfl, _, _⟩ := KeyedList.name?_eq_some.1 named.1
          simp [namedItems, named.1, namedItems_names named.2]

theorem unambiguous_map {keyFields : List String} {entries : Entries}
    (distinct : entries.Distinct) : Unambiguous keyFields (.map entries) := by
  rw [Unambiguous, children, List.map_map]
  exact distinct

/-- The parts of a keyed list are its items, each without its key field and under its name. -/
theorem mem_namedItems_iff {field name : String} {part : Value} {items : List Value} :
    (name, part) ∈ namedItems field items ↔
      ∃ entries : Entries, .map entries ∈ items ∧
        name = (KeyedList.name? field (.map entries)).getD "" ∧
        part = .map (entries.without field) := by
  fun_induction namedItems field items with
  | case1 => simp
  | case2 entries rest ih =>
      rw [List.mem_cons, ih]
      constructor
      · intro inside
        rcases inside with same | ⟨others, listed, named, left⟩
        · cases same
          exact ⟨entries, List.mem_cons_self, rfl, rfl⟩
        · exact ⟨others, List.mem_cons_of_mem _ listed, named, left⟩
      · intro inside
        obtain ⟨others, listed, named, left⟩ := inside
        rcases List.mem_cons.1 listed with same | later
        · cases same
          exact Or.inl (Prod.ext named left)
        · exact Or.inr ⟨others, later, named, left⟩
  | case3 item rest other ih =>
      rw [ih]
      constructor
      · intro inside
        obtain ⟨entries, listed, named⟩ := inside
        exact ⟨entries, List.mem_cons_of_mem _ listed, named⟩
      · intro inside
        obtain ⟨entries, listed, named⟩ := inside
        rcases List.mem_cons.1 listed with same | later
        · exact absurd same.symm (other entries)
        · exact ⟨entries, later, named⟩

theorem mem_namedItems {field name : String} {part : Value} {items : List Value}
    (member : (name, part) ∈ namedItems field items) :
    ∃ entries : Entries, .map entries ∈ items ∧ part = .map (entries.without field) := by
  obtain ⟨entries, listed, _, left⟩ := mem_namedItems_iff.1 member
  exact ⟨entries, listed, left⟩

/-- A keyed list is never ambiguous. -/
theorem unambiguous_list (keyFields : List String) (items : List Value) :
    Unambiguous keyFields (.list items) := by
  rw [Unambiguous, children]
  split
  · exact List.nodup_nil
  · next keyed isKeyed =>
    obtain ⟨_, _, nodup, named⟩ := KeyedList.of?_eq_some isKeyed
    rw [namedItems_names named]
    exact nodup

/-- The last part under a label is the first one, if the others have other labels. -/
theorem or_lookup_bind {α : Type} {name : String} {parts : List (String × Value)}
    (fresh : name ∉ parts.map Prod.fst) (label : String) (value : Value) (f : Value → Option α) :
    ((parts.lookup label).bind f).or (if name = label then f value else none) =
      (((name, value) :: parts).lookup label).bind f := by
  rw [List.lookup_cons]
  by_cases same : name = label
  · have missing : parts.lookup label = none := by
      rw [List.lookup_eq_none_iff]
      intro part member
      have other : label ≠ part.1 := by
        rintro rfl
        exact fresh (same ▸ List.mem_map_of_mem member)
      simpa using other
    simp [missing, same]
  · have other : (label == name) = false := by simpa using Ne.symm same
    simp [same, other]

theorem isPrefixOf?_singleton (name label : String) (path : LabelPath) :
    [name].isPrefixOf? (label :: path) = if name = label then some path else none := by
  simp [List.isPrefixOf?]

theorem keyedInEntries_skipped (keyFields : List String) (field : String) (path : LabelPath) :
    ∀ entries : Entries, keyedInEntries keyFields (some field) entries path =
      keyedInEntries keyFields none (entries.without field) path
  | [] => by simp [keyedInEntries, Entries.without]
  | (key, value) :: rest => by
      have others := keyedInEntries_skipped keyFields field path rest
      rw [keyedInEntries, others]
      by_cases skip : key.isTextOf field = true
      · simp [Entries.without, skip]
      · simp [Entries.without, skip, keyedInEntries]

theorem keyedInEntries_cons (keyFields : List String) (label : String) (path : LabelPath) :
    ∀ entries : Entries, Unambiguous keyFields (.map entries) →
      keyedInEntries keyFields none entries (label :: path) =
        ((children keyFields (.map entries)).lookup label).bind (keyedAt keyFields · path)
  | [], _ => by simp [keyedInEntries, children]
  | (key, value) :: rest, unambiguous => by
      rw [Unambiguous, children, List.map_cons, List.map_cons, List.nodup_cons] at unambiguous
      have others := keyedInEntries_cons keyFields label path rest unambiguous.2
      rw [keyedInEntries, others, children, children, List.map_cons,
        ← or_lookup_bind unambiguous.1, isPrefixOf?_singleton]
      by_cases same : key.keyText = label <;> simp [same]

theorem keyedInItems_cons (keyFields : List String) (field label : String) (path : LabelPath)
    {items : List Value} (unambiguous : ((namedItems field items).map Prod.fst).Nodup) :
    keyedInItems keyFields field items (label :: path) =
      ((namedItems field items).lookup label).bind (keyedAt keyFields · path) := by
  fun_induction namedItems field items with
  | case1 => simp [keyedInItems]
  | case2 entries rest ih =>
      rw [List.map_cons, List.nodup_cons] at unambiguous
      rw [keyedInItems, ih unambiguous.2, ← or_lookup_bind unambiguous.1, isPrefixOf?_singleton]
      by_cases same : (KeyedList.name? field (.map entries)).getD "" = label
      · simp [same, keyedAt, keyedInEntries_skipped]
      · simp [same]
  | case3 item rest other ih =>
      rw [keyedInItems]
      · exact ih unambiguous
      · exact other

/-- A path goes on in the part to which its first label leads. -/
theorem keyedAt_cons {keyFields : List String} {value : Value}
    (unambiguous : Unambiguous keyFields value) (label : String) (path : LabelPath) :
    keyedAt keyFields value (label :: path) =
      ((children keyFields value).lookup label).bind (keyedAt keyFields · path) := by
  cases value with
  | map entries =>
      rw [keyedAt]
      exact keyedInEntries_cons keyFields label path entries unambiguous
  | list items =>
      rw [Unambiguous, children] at unambiguous
      rw [keyedAt, children]
      cases isKeyed : KeyedList.of? keyFields items with
      | none => simp
      | some keyed =>
          rw [isKeyed] at unambiguous
          simpa using keyedInItems_cons keyFields keyed.field label path unambiguous
  | _ => simp [keyedAt, children]

/-- The index says at paths that begin with `front` what is to be found in the part of the sample
that stands there, if there is one. -/
def Agrees (keyFields : List String) (index : SampleIndex) (front : LabelPath)
    (part : Option Value) : Prop :=
  ∀ path, index.lookup (front ++ path) = part.bind (keyedAt keyFields · path)

theorem agrees_ofValue (keyFields : List String) (sample : Value) :
    Agrees keyFields (ofValue keyFields sample) [] (some sample) :=
  fun path => lookup_ofValue keyFields sample path

/-- An index that agrees with a part of the sample agrees with the parts of this part. -/
theorem Agrees.child {keyFields : List String} {index : SampleIndex} {front : LabelPath}
    {part : Option Value} (agrees : Agrees keyFields index front part)
    (unambiguous : ∀ value ∈ part, Unambiguous keyFields value) (label : String) :
    Agrees keyFields index (front ++ [label])
      (part.bind fun value => (children keyFields value).lookup label) := by
  intro path
  rw [List.append_assoc, List.singleton_append, agrees (label :: path)]
  cases part with
  | none => rfl
  | some value => exact keyedAt_cons (unambiguous value rfl) label path

theorem lookup_of_mem {name : String} {value : Value} {parts : List (String × Value)}
    (nodup : (parts.map Prod.fst).Nodup) (member : (name, value) ∈ parts) :
    parts.lookup name = some value := by
  obtain ⟨before, after, rfl⟩ := List.append_of_mem member
  rw [List.map_append, List.nodup_append] at nodup
  refine List.lookup_eq_some_iff.2 ⟨before, after, rfl, fun part listed => ?_⟩
  have different := nodup.2.2 part.1 (List.mem_map_of_mem listed) name (by simp)
  simpa using Ne.symm different

/-- The index says of the paths that begin with `front` either what is to be found in the value or
nothing at all. The latter is so inside of lists that are not keyed. -/
def Reaches (keyFields : List String) (index : SampleIndex) (front : LabelPath) (value : Value) :
    Prop :=
  ∃ part, Agrees keyFields index front part ∧ ∀ found ∈ part, found = value

theorem reaches_ofValue (keyFields : List String) (sample : Value) :
    Reaches keyFields (ofValue keyFields sample) [] sample :=
  ⟨some sample, agrees_ofValue keyFields sample, by simp⟩

theorem reaches_empty (keyFields : List String) (front : LabelPath) (value : Value) :
    Reaches keyFields empty front value :=
  ⟨none, fun _ => rfl, by simp⟩

theorem Reaches.child {keyFields : List String} {index : SampleIndex} {front : LabelPath}
    {value part : Value} {label : String} (reaches : Reaches keyFields index front value)
    (unambiguous : Unambiguous keyFields value)
    (member : (label, part) ∈ children keyFields value) :
    Reaches keyFields index (front ++ [label]) part := by
  obtain ⟨found, agrees, only⟩ := reaches
  refine ⟨_, agrees.child (fun v inside => only v inside ▸ unambiguous) label, ?_⟩
  intro v inside
  obtain ⟨w, inside, taken⟩ := Option.bind_eq_some_iff.1 inside
  obtain rfl := only w inside
  rw [lookup_of_mem unambiguous member] at taken
  exact (Option.some.inj taken).symm

/-- A list that the index knows as keyed is keyed in this way. -/
theorem Reaches.of?_of_lookup {keyFields : List String} {index : SampleIndex} {front : LabelPath}
    {items : List Value} {keyed : KeyedList} (reaches : Reaches keyFields index front (.list items))
    (found : index.lookup front = some keyed) : KeyedList.of? keyFields items = some keyed := by
  obtain ⟨part, agrees, only⟩ := reaches
  have here := agrees []
  rw [List.append_nil, found] at here
  obtain ⟨v, inside, keyedHere⟩ := Option.bind_eq_some_iff.1 here.symm
  rw [only v inside, keyedAt] at keyedHere
  split at keyedHere
  · cases keyedHere
  · next list isKeyed =>
    cases keyedHere
    exact isKeyed

end SampleIndex

end TypedManifests
