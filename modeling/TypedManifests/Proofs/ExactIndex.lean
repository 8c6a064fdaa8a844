/-
Module: TypedManifests.Proofs.ExactIndex
Purpose: The index of a sample is exact. It has an entry for the path of every list that one can be
  led to and for no other path, and the entry tells how the list is keyed, or that it is not.
Main exports: KeyedList.Serves, KeyedList.IsKeyed, isKeyed_of_of?, Leads, addValue_eq_foldl,
  mem_unknown_ofValue, keyedAt_eq_some_iff, index_exact
-/
import TypedManifests.Proofs.ParallelWalk
import TypedManifests.Proofs.ReshapedParts

/-!
A path leads through a sample from mapping to mapping by the texts of the keys, and through a keyed
list by the names of its items. This is told by a relation, beside the walk that fills the index.
The walk records a value and then goes on to its parts, under labels that lead to them; so what the
index says of a value is said by an induction on its parts. The list of the paths that are not keyed
is exact for every sample. In the table of keyed lists a later list takes the place of an earlier
one under the same path; it is exact if no two positions share a path, and this is so if the keys of
each mapping have different texts.
-/

namespace TypedManifests

/-!
### Key fields
-/

namespace KeyedList

/-- A text that may be a label in backticks: printable ASCII without the backtick, and something of
it. -/
def IsWritable (name : String) : Prop :=
  name ≠ "" ∧ ∀ c ∈ name.toList, ' ' ≤ c ∧ c ≤ '~' ∧ c ≠ '\x60'

/-- Every item carries a text of its own under `field`, in the order of `names`. -/
structure Serves (field : String) (items : List Value) (names : List String) : Prop where
  carried : List.Forall₂
    (fun item name => ∃ entries : Entries, item = .map entries ∧
      entries.get? field = some (.text name) ∧ IsWritable name) items names
  distinct : names.Nodup

/-- The list is keyed by the first of the key fields that serves. -/
structure IsKeyed (keyFields : List String) (items : List Value) (keyed : KeyedList) : Prop where
  nonempty : items ≠ []
  serves : Serves keyed.field items keyed.names
  first : ∃ before after, keyFields = before ++ keyed.field :: after ∧
    ∀ field ∈ before, ∀ names, ¬ Serves field items names

theorem isName_iff {name : String} : isName name = true ↔ IsWritable name := by
  simp [isName, isNameChar, IsWritable, and_assoc]

theorem names?_eq_some_iff {field : String} {items : List Value} {names : List String} :
    names? field items = some names ↔ Serves field items names := by
  have carried : items.map (name? field) = names.map some ↔
      List.Forall₂ (fun item name => name? field item = some name) items names := by
    rw [← List.forall₂_eq_eq_eq, List.forall₂_map_left_iff, List.forall₂_map_right_iff]
  simp only [name?_eq_some, isName_iff] at carried
  rw [names?, Option.filter_eq_some_iff, mapM_eq_some, carried, decide_eq_true_eq]
  constructor
  · intro both
    exact ⟨both.1, both.2⟩
  · intro serves
    exact ⟨serves.carried, serves.distinct⟩

theorem names?_eq_none_iff {field : String} {items : List Value} :
    names? field items = none ↔ ∀ names, ¬ Serves field items names := by
  rw [Option.eq_none_iff_forall_ne_some]
  exact forall_congr' fun names => not_congr names?_eq_some_iff

/-- How a list is keyed says which key field serves it first and what it carries there. -/
theorem isKeyed_of_of? {keyFields : List String} {items : List Value} {keyed : KeyedList}
    (isKeyed : of? keyFields items = some keyed) : IsKeyed keyFields items keyed := by
  rw [of?] at isKeyed
  split at isKeyed
  · cases isKeyed
  · next nonempty =>
    obtain ⟨before, field, after, fields, found, earlier⟩ := List.findSome?_eq_some_iff.1 isKeyed
    obtain ⟨names, named, rfl⟩ := Option.map_eq_some_iff.1 found
    constructor
    case nonempty => simpa using nonempty
    case serves => exact names?_eq_some_iff.1 named
    case first =>
      refine ⟨before, after, fields, fun other member => ?_⟩
      apply names?_eq_none_iff.1
      exact Option.map_eq_none_iff.1 (earlier other member)

theorem IsKeyed.names_ne_nil {keyFields : List String} {items : List Value} {keyed : KeyedList}
    (isKeyed : IsKeyed keyFields items keyed) : keyed.names ≠ [] := by
  intro empty
  have same := isKeyed.serves.carried.length_eq
  rw [empty] at same
  exact isKeyed.nonempty (List.eq_nil_of_length_eq_zero same)

end KeyedList

namespace SampleIndex

variable {keyFields : List String}

/-!
### Where a path leads
-/

/-- The path leads from a value to one inside of it: by the text of its key into an entry of a
mapping, and by its name into an item of a keyed list, which has lost its key field there. -/
inductive Leads (keyFields : List String) : Value → LabelPath → Value → Prop where
  | here (value : Value) : Leads keyFields value [] value
  | entry {entries : Entries} {key value target : Value} {path : LabelPath}
      (member : (key, value) ∈ entries) (onward : Leads keyFields value path target) :
      Leads keyFields (.map entries) (key.keyText :: path) target
  | item {items : List Value} {keyed : KeyedList} {entries : Entries} {name : String}
      {path : LabelPath} {target : Value}
      (isKeyed : KeyedList.of? keyFields items = some keyed) (member : .map entries ∈ items)
      (named : entries.get? keyed.field = some (.text name))
      (onward : Leads keyFields (.map (entries.without keyed.field)) path target) :
      Leads keyFields (.list items) (name :: path) target

/-- The path leads to a list that is not keyed. -/
def LeadsUnkeyed (keyFields : List String) (value : Value) (path : LabelPath) : Prop :=
  ∃ items, Leads keyFields value path (.list items) ∧ KeyedList.of? keyFields items = none

theorem leads_nil {value target : Value} : Leads keyFields value [] target ↔ target = value := by
  constructor
  · intro leads
    cases leads
    rfl
  · rintro rfl
    exact .here _

/-- The parts of a keyed list are what is left of its items, under the names that they carry. -/
theorem mem_children_list {items : List Value} {keyed : KeyedList} {name : String} {part : Value}
    (isKeyed : KeyedList.of? keyFields items = some keyed) :
    (name, part) ∈ children keyFields (.list items) ↔
      ∃ entries : Entries, .map entries ∈ items ∧
        entries.get? keyed.field = some (.text name) ∧
          part = .map (entries.without keyed.field) := by
  have parts : children keyFields (.list items) = namedItems keyed.field items := by
    simp only [children, isKeyed]
  obtain ⟨_, _, _, named⟩ := KeyedList.of?_eq_some isKeyed
  rw [parts, mem_namedItems_iff]
  apply exists_congr
  intro entries
  apply and_congr_right
  intro member
  apply and_congr_left'
  have listed : KeyedList.name? keyed.field (.map entries) ∈ keyed.names.map some := by
    rw [← named]
    exact List.mem_map_of_mem member
  obtain ⟨own, _, isOwn⟩ := List.mem_map.1 listed
  obtain ⟨_, same, carried, _⟩ := KeyedList.name?_eq_some.1 isOwn.symm
  cases same
  rw [← isOwn, carried]
  simp [eq_comm]

/-- The first label of a path leads to a part of the value, and the others lead on from there. -/
theorem leads_cons {value target : Value} {label : String} {path : LabelPath} :
    Leads keyFields value (label :: path) target ↔
      ∃ part, (label, part) ∈ children keyFields value ∧ Leads keyFields part path target := by
  constructor
  · intro leads
    cases leads with
    | entry member onward => exact ⟨_, List.mem_map_of_mem member, onward⟩
    | item isKeyed member named onward =>
        exact ⟨_, (mem_children_list isKeyed).2 ⟨_, member, named, rfl⟩, onward⟩
  · rintro ⟨part, inside, onward⟩
    cases value with
    | map entries =>
        obtain ⟨entry, member, same⟩ := List.mem_map.1 inside
        cases same
        exact .entry member onward
    | list items =>
        cases isKeyed : KeyedList.of? keyFields items with
        | none => simp [children, isKeyed] at inside
        | some keyed =>
            obtain ⟨entries, member, named, rfl⟩ := (mem_children_list isKeyed).1 inside
            exact .item isKeyed member named onward
    | _ => cases inside

theorem children_of_isPlain {value : Value} (plain : value.IsPlain) :
    children keyFields value = [] := by
  cases value with
  | text s => cases plain
  | list items => cases plain
  | map entries => cases plain
  | _ => rfl

/-- A property holds of all values if it passes to a value from the parts that labels lead to. -/
@[elab_as_elim]
theorem byChildren (keyFields : List String) {motive : Value → Prop}
    (step : ∀ value, (∀ part ∈ children keyFields value, motive part.2) → motive value)
    (value : Value) : motive value := by
  induction value using Value.byItems with
  | plain value plain =>
      apply step
      intro part inside
      rw [children_of_isPlain plain] at inside
      cases inside
  | text s =>
      apply step
      intro part inside
      cases inside
  | list items _ parts =>
      apply step
      intro part inside
      cases isKeyed : KeyedList.of? keyFields items with
      | none => simp [children, isKeyed] at inside
      | some keyed =>
          obtain ⟨entries, member, _, left⟩ := (mem_children_list isKeyed).1 inside
          rw [left]
          exact parts entries member _ (List.filter_subset_self entries)
  | map entries ih =>
      apply step
      intro part inside
      obtain ⟨entry, member, rfl⟩ := List.mem_map.1 inside
      exact ih entry member

/-!
### The walk from part to part
-/

/-- Records a value at a path: a list is keyed or it is not, and nothing else is recorded. -/
def record (keyFields : List String) (path : LabelPath) (value : Value) (index : SampleIndex) :
    SampleIndex :=
  match value with
  | .list items =>
    match KeyedList.of? keyFields items with
    | none => index.addUnknown path
    | some keyed => index.addKeyed path keyed
  | _ => index

/-- What is left of an item is walked like a mapping of its own. -/
theorem addEntries_skipped (field : String) (path : LabelPath) (entries : Entries)
    (index : SampleIndex) :
    addEntries keyFields (some field) path entries index =
      addEntries keyFields none path (entries.without field) index := by
  induction entries generalizing index with
  | nil => simp [addEntries, Entries.without]
  | cons entry rest ih =>
      obtain ⟨key, value⟩ := entry
      rw [Entries.without] at ih
      rw [addEntries, Entries.without, List.filter_cons]
      by_cases skip : key.isTextOf field = true
      · simp [skip, ih]
      · simp [skip, ih, addEntries]

theorem addEntries_eq_foldl (path : LabelPath) (entries : Entries) (index : SampleIndex) :
    addEntries keyFields none path entries index =
      (children keyFields (.map entries)).foldl
        (fun index part => addValue keyFields (path ++ [part.1]) part.2 index) index := by
  induction entries generalizing index with
  | nil => rw [addEntries]; rfl
  | cons entry rest ih =>
      rw [addEntries, Option.any_none, if_neg Bool.false_ne_true, ih]
      rfl

theorem addItems_eq_foldl (field : String) (path : LabelPath) (items : List Value)
    (index : SampleIndex) :
    addItems keyFields field path items index =
      (namedItems field items).foldl
        (fun index part => addValue keyFields (path ++ [part.1]) part.2 index) index := by
  fun_induction namedItems field items generalizing index with
  | case1 => rw [addItems]; rfl
  | case2 entries rest ih =>
      rw [addItems, ih, addEntries_skipped, List.foldl_cons, addValue]
  | case3 item rest other ih =>
      rw [addItems]
      · exact ih index
      · exact other

/-- A value is recorded, and then its parts are, each under the label that leads to it. -/
theorem addValue_eq_foldl (path : LabelPath) (value : Value) (index : SampleIndex) :
    addValue keyFields path value index =
      (children keyFields value).foldl
        (fun index part => addValue keyFields (path ++ [part.1]) part.2 index)
        (record keyFields path value index) := by
  cases value with
  | map entries =>
      rw [addValue]
      exact addEntries_eq_foldl path entries index
  | list items =>
      rw [addValue, record, children]
      cases KeyedList.of? keyFields items with
      | none => rfl
      | some keyed => exact addItems_eq_foldl keyed.field path items _
  | _ => simp [addValue, record, children]

/-- What recording keeps, the whole walk keeps. -/
theorem addValue_keeps {P : SampleIndex → Prop}
    (unknown : ∀ path index, P index → P (index.addUnknown path))
    (keyed : ∀ path list index, P index → P (index.addKeyed path list)) (value : Value) :
    ∀ (path : LabelPath) (index : SampleIndex),
      P index → P (addValue keyFields path value index) := by
  induction value using byChildren keyFields with
  | step value ih =>
      intro path index holds
      rw [addValue_eq_foldl]
      apply List.foldlRecOn
      · unfold record
        split
        · split
          · exact unknown path index holds
          · exact keyed path _ index holds
        · exact holds
      · intro index holds part inside
        exact ih part inside _ index holds

/-!
### The lists that are not keyed
-/

theorem leadsUnkeyed_nil {value : Value} :
    LeadsUnkeyed keyFields value [] ↔
      ∃ items, value = .list items ∧ KeyedList.of? keyFields items = none := by
  simp only [LeadsUnkeyed, leads_nil, eq_comm]

theorem leadsUnkeyed_cons {value : Value} {label : String} {path : LabelPath} :
    LeadsUnkeyed keyFields value (label :: path) ↔
      ∃ part, (label, part) ∈ children keyFields value ∧ LeadsUnkeyed keyFields part path := by
  simp only [LeadsUnkeyed, leads_cons]
  constructor
  · intro leads
    obtain ⟨items, ⟨part, inside, onward⟩, unkeyed⟩ := leads
    exact ⟨part, inside, items, onward, unkeyed⟩
  · intro leads
    obtain ⟨part, inside, items, onward, unkeyed⟩ := leads
    exact ⟨items, ⟨part, inside, onward⟩, unkeyed⟩

theorem mem_addUnknown {spot path : LabelPath} {index : SampleIndex} :
    path ∈ (index.addUnknown spot).unknown ↔ path ∈ index.unknown ∨ path = spot := by
  rw [addUnknown]
  split
  · next known =>
    constructor
    · exact Or.inl
    · intro either
      rcases either with there | rfl
      · exact there
      · exact known
  · simp

theorem mem_unknown_record {front path : LabelPath} {value : Value} {index : SampleIndex} :
    path ∈ (record keyFields front value index).unknown ↔
      path ∈ index.unknown ∨ path = front ∧ LeadsUnkeyed keyFields value [] := by
  rw [leadsUnkeyed_nil]
  cases value with
  | list items =>
      rw [record]
      cases isKeyed : KeyedList.of? keyFields items with
      | none => simp [mem_addUnknown, isKeyed]
      | some keyed => simp [addKeyed, isKeyed]
  | _ => simp [record]

theorem mem_unknown_foldl {path : LabelPath} {parts : List (String × Value)}
    {walk : SampleIndex → String × Value → SampleIndex} {P : String × Value → Prop}
    (each : ∀ part ∈ parts, ∀ index,
      path ∈ (walk index part).unknown ↔ path ∈ index.unknown ∨ P part) (index : SampleIndex) :
    path ∈ (parts.foldl walk index).unknown ↔ path ∈ index.unknown ∨ ∃ part ∈ parts, P part := by
  induction parts generalizing index with
  | nil => simp
  | cons part rest ih =>
      have first := each part List.mem_cons_self index
      rw [List.foldl_cons, ih fun other member => each other (List.mem_cons_of_mem _ member), first]
      simp [or_assoc]

/-- The walk of a value at `front` adds the paths that go on from there to a list that is not keyed.
The induction is on the parts of the value. -/
theorem mem_unknown_addValue (value : Value) : ∀ (front path : LabelPath) (index : SampleIndex),
    path ∈ (addValue keyFields front value index).unknown ↔
      path ∈ index.unknown ∨ ∃ rest, path = front ++ rest ∧ LeadsUnkeyed keyFields value rest := by
  induction value using byChildren keyFields with
  | step value ih =>
      intro front path index
      rw [addValue_eq_foldl, mem_unknown_foldl fun part inside => ih part inside _ path,
        mem_unknown_record, or_assoc]
      apply or_congr_right
      constructor
      · intro found
        rcases found with ⟨here, unkeyed⟩ | ⟨part, inside, rest, behind, unkeyed⟩
        · exact ⟨[], by rw [here, List.append_nil], unkeyed⟩
        · exact ⟨part.1 :: rest, by rw [behind, List.append_assoc, List.singleton_append],
            leadsUnkeyed_cons.2 ⟨part.2, inside, unkeyed⟩⟩
      · intro found
        obtain ⟨rest, behind, unkeyed⟩ := found
        cases rest with
        | nil => exact Or.inl ⟨by rw [behind, List.append_nil], unkeyed⟩
        | cons label rest =>
            obtain ⟨part, inside, onward⟩ := leadsUnkeyed_cons.1 unkeyed
            exact Or.inr ⟨(label, part), inside, rest,
              by rw [behind, List.append_assoc, List.singleton_append], onward⟩

/-- The index of a sample has the paths that lead to lists which are not keyed. -/
theorem mem_unknown_ofValue {sample : Value} {path : LabelPath} :
    path ∈ (ofValue keyFields sample).unknown ↔ LeadsUnkeyed keyFields sample path := by
  rw [ofValue, mem_unknown_addValue]
  simp [empty]

/-!
### The keyed lists
-/

/-- Where the keys of each mapping have different texts, a path leads to at most one value. -/
theorem Leads.unique {value first second : Value} {path : LabelPath}
    (distinct : value.DistinctKeys) (leads : Leads keyFields value path first)
    (leads' : Leads keyFields value path second) : first = second := by
  induction path generalizing value with
  | nil => rw [leads_nil.1 leads, leads_nil.1 leads']
  | cons label path ih =>
      obtain ⟨part, inside, onward⟩ := leads_cons.1 leads
      obtain ⟨part', inside', onward'⟩ := leads_cons.1 leads'
      have found := lookup_of_mem distinct.unambiguous inside
      rw [lookup_of_mem distinct.unambiguous inside', Option.some.injEq] at found
      subst found
      exact ih (distinct.part inside) onward onward'

/-- The table has at a path the keyed list to which the path leads. -/
theorem keyedAt_eq_some_iff {value : Value} {path : LabelPath} {keyed : KeyedList}
    (distinct : value.DistinctKeys) :
    keyedAt keyFields value path = some keyed ↔
      ∃ items, Leads keyFields value path (.list items) ∧
        KeyedList.of? keyFields items = some keyed := by
  induction path generalizing value with
  | nil =>
      rw [keyedAt_nil_eq_some]
      simp only [leads_nil, eq_comm]
  | cons label path ih =>
      rw [keyedAt_cons distinct.unambiguous, Option.bind_eq_some_iff]
      constructor
      · intro found
        obtain ⟨part, below, keyedThere⟩ := found
        obtain ⟨_, _, split, _⟩ := List.lookup_eq_some_iff.1 below
        have inside : (label, part) ∈ children keyFields value := by simp [split]
        obtain ⟨items, onward, isKeyed⟩ := (ih (distinct.part inside)).1 keyedThere
        exact ⟨items, leads_cons.2 ⟨part, inside, onward⟩, isKeyed⟩
      · intro found
        obtain ⟨items, leads, isKeyed⟩ := found
        obtain ⟨part, inside, onward⟩ := leads_cons.1 leads
        exact ⟨part, lookup_of_mem distinct.unambiguous inside,
          (ih (distinct.part inside)).2 ⟨items, onward, isKeyed⟩⟩

/-!
### No path twice
-/

theorem map_fst_insert (path : LabelPath) (list : KeyedList)
    (entries : List (LabelPath × KeyedList)) :
    (insert path list entries).map Prod.fst =
      if path ∈ entries.map Prod.fst then entries.map Prod.fst
      else entries.map Prod.fst ++ [path] := by
  induction entries with
  | nil => rfl
  | cons entry rest ih =>
      rw [insert]
      by_cases here : entry.1 = path
      · simp [here]
      · have apart : path ≠ entry.1 := fun same => here same.symm
        rw [if_neg here, List.map_cons, ih, List.map_cons]
        by_cases later : path ∈ rest.map Prod.fst <;> simp [apart, later]

/-- No path is recorded twice in the same way. -/
def IsTable (index : SampleIndex) : Prop :=
  (index.keyed.map Prod.fst).Nodup ∧ index.unknown.Nodup

theorem isTable_ofValue (keyFields : List String) (sample : Value) :
    IsTable (ofValue keyFields sample) := by
  apply addValue_keeps
  case unknown =>
    intro path index table
    rw [addUnknown]
    split
    · exact table
    · next fresh => exact ⟨table.1, by simpa using List.Nodup.concat fresh table.2⟩
  case keyed =>
    intro path list index table
    refine ⟨?_, table.2⟩
    rw [addKeyed, map_fst_insert]
    split
    · exact table.1
    · next fresh => simpa using List.Nodup.concat fresh table.1
  case a => exact ⟨List.nodup_nil, List.nodup_nil⟩

theorem lookup_of_mem_keyed {index : SampleIndex} {path : LabelPath}
    (member : path ∈ index.keyed.map Prod.fst) : ∃ keyed, index.lookup path = some keyed := by
  obtain ⟨entry, listed, rfl⟩ := List.mem_map.1 member
  have found : (index.keyed.find? fun other => other.1 = entry.1).isSome = true := by
    rw [List.find?_isSome]
    exact ⟨entry, listed, by simp⟩
  obtain ⟨other, found⟩ := Option.isSome_iff_exists.1 found
  exact ⟨other.2, by rw [lookup, found]; rfl⟩

/-!
### The whole index
-/

/-- The index of a sample in which the keys of each mapping have different texts. No path is in it
twice, as keyed or unknown; at a path there is a keyed list exactly if the path leads to that list,
and the path is unknown exactly if it leads to a list which is not keyed. The key field of a keyed
list is the first that serves, and its names are those of the items. -/
theorem index_exact (keyFields : List String) {sample : Value} (distinct : sample.DistinctKeys) :
    let index := ofValue keyFields sample
    (index.keyed.map Prod.fst ++ index.unknown).Nodup ∧
      (∀ path keyed, index.lookup path = some keyed ↔
        ∃ items, Leads keyFields sample path (.list items) ∧
          KeyedList.of? keyFields items = some keyed) ∧
      (∀ path, path ∈ index.unknown ↔
        ∃ items, Leads keyFields sample path (.list items) ∧
          KeyedList.of? keyFields items = none) ∧
      ∀ path keyed, index.lookup path = some keyed →
        ∃ items, Leads keyFields sample path (.list items) ∧
          KeyedList.IsKeyed keyFields items keyed ∧ keyed.names ≠ [] ∧ keyed.names.Nodup := by
  intro index
  have keyedExact : ∀ path keyed, index.lookup path = some keyed ↔
      ∃ items, Leads keyFields sample path (.list items) ∧
        KeyedList.of? keyFields items = some keyed := by
    intro path keyed
    rw [lookup_ofValue]
    exact keyedAt_eq_some_iff distinct
  refine ⟨?_, keyedExact, fun path => mem_unknown_ofValue, ?_⟩
  · obtain ⟨keyedNodup, unknownNodup⟩ := isTable_ofValue keyFields sample
    refine List.nodup_append.2 ⟨keyedNodup, unknownNodup, ?_⟩
    intro path inKeyed other inUnknown same
    subst same
    obtain ⟨keyed, found⟩ := lookup_of_mem_keyed inKeyed
    obtain ⟨items, leads, isKeyed⟩ := (keyedExact path keyed).1 found
    obtain ⟨others, leads', unkeyed⟩ := mem_unknown_ofValue.1 inUnknown
    cases leads.unique distinct leads'
    rw [isKeyed] at unkeyed
    cases unkeyed
  · intro path keyed found
    obtain ⟨items, leads, isKeyed⟩ := (keyedExact path keyed).1 found
    have described := KeyedList.isKeyed_of_of? isKeyed
    exact ⟨items, leads, described, described.names_ne_nil, described.serves.distinct⟩

/-- Under a key that is no text, an item with ports of different names and one whose ports share a
name. -/
theorem index_exact_nested :
    let port (name : String) : Value := .ofFields [("name", .text name), ("port", .int 80)]
    let pod (name : String) (ports : List String) : Value :=
      .ofFields [("id", .text name), ("ports", .list (ports.map port))]
    let sample : Value := .map [(.int 1, .list [pod "web" ["x", "y"], pod "db" ["z", "z"]])]
    let index := ofValue ["name", "id"] sample
    sample.DistinctKeys ∧
      index.lookup ["1", "web", "ports"] = some ⟨"name", ["x", "y"]⟩ ∧
      ["1", "db", "ports"] ∈ index.unknown := by
  intro port pod sample index
  have text (s : String) : (Value.text s).DistinctKeys := .atom trivial
  have int (i : Int) : (Value.int i).DistinctKeys := .atom trivial
  have ports (names : List String) : (Value.list (names.map port)).DistinctKeys := by
    apply Value.DistinctKeys.list
    intro item listed
    obtain ⟨name, _, rfl⟩ := List.mem_map.1 listed
    exact .ofFields (by simp) (by simp [text, int])
  have pods (name : String) (names : List String) : (pod name names).DistinctKeys :=
    .ofFields (by simp) (by simp [text, ports names])
  have distinct : sample.DistinctKeys := by
    refine .map (List.nodup_singleton _) ?_
    simpa using Value.DistinctKeys.list (by simp [pods])
  have toPorts (name : String) (names : List String)
      (listed : pod name names ∈ [pod "web" ["x", "y"], pod "db" ["z", "z"]]) :
      Leads ["name", "id"] sample ["1", name, "ports"] (.list (names.map port)) := by
    apply @Leads.entry _ _ (.int 1)
    · exact List.mem_singleton.2 rfl
    · apply @Leads.item _ _ ⟨"id", ["web", "db"]⟩ _ _ _ _ (by decide) listed rfl
      apply @Leads.entry _ _ (.text "ports")
      · exact List.mem_singleton.2 rfl
      · exact .here _
  obtain ⟨_, keyed, unknown, _⟩ := index_exact ["name", "id"] distinct
  refine ⟨distinct, ?_, ?_⟩
  · exact (keyed _ _).2 ⟨_, toPorts "web" ["x", "y"] (by simp), by decide⟩
  · exact (unknown _).2 ⟨_, toPorts "db" ["z", "z"] (by simp), by decide⟩

end SampleIndex

end TypedManifests
