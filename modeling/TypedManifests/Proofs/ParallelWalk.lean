/-
Module: TypedManifests.Proofs.ParallelWalk
Purpose: Splitting lists by a table of paths is walking type and data together. The pass looks up
  every list of a type by the labels that lead to it, in a table that was filled by a walk over the
  data alone. Where the keys of each mapping have different texts, what it finds is the data that
  stands beside this list, so nothing that the table knows of one place is used at another.
Main exports: Value.DistinctKeys, splitAlong, splitLists_of_agrees, apply_eq_splitAlong
-/
import TypedManifests.Proofs.Passes
import TypedManifests.Proofs.Reshaping

namespace TypedManifests

open TypedManifests.TypeExpr

/-- In every mapping of the value, however deep, the texts of all keys are different. -/
inductive Value.DistinctKeys : Value → Prop where
  | null : DistinctKeys .null
  | atom {value : Value} (atom : value.IsAtom) : DistinctKeys value
  | list {items : List Value} (all : ∀ item ∈ items, DistinctKeys item) : DistinctKeys (.list items)
  | map {entries : List (Value × Value)} (distinct : Entries.Distinct entries)
      (all : ∀ entry ∈ entries, DistinctKeys entry.2) : DistinctKeys (.map entries)

/-!
### Type and data together

The data beside a type may be missing. Beside a record it has a part for each label: the value under
a key with this text, or the item with this name, without its key field.
-/

namespace TypeExpr

open SampleIndex

/-- The part of the data to which a label leads. -/
def partOf? (keyFields : List String) (label : String) (data : Option Value) : Option Value :=
  data.bind fun value => (children keyFields value).lookup label

/-- How the list of records `element` is split if `data` stands beside it: the key field, and the
items without it under their names. The data must be a list that is keyed by a field which the
records have as text. -/
def splitBeside? (keyFields : List String) (element : Fields) :
    Option Value → Option (String × List (String × Value))
  | some (.list items) =>
    match KeyedList.of? keyFields items with
    | some keyed =>
      if field? element keyed.field = some .text then
        some (keyed.field, namedItems keyed.field items)
      else none
    | none => none
  | _ => none

theorem sizeOf_without (label : String) : ∀ fields : Fields,
    sizeOf (without fields label) ≤ sizeOf fields
  | [] => Nat.le_refl _
  | field :: rest => by
      have others := sizeOf_without label rest
      rw [without] at others ⊢
      rw [List.filter_cons]
      split <;> simp only [List.cons.sizeOf_spec] <;> omega

/-- The type with those lists made records that are keyed in the data beside them. A list that stays
is not walked. -/
def splitAlong (keyFields : List String) (data : Option Value) : TypeExpr → TypeExpr
  | .scalar name => .scalar name
  | .optional t => .optional (splitAlong keyFields data t)
  | .record fields =>
    .record (fields.map fun field =>
      (field.1, splitAlong keyFields (partOf? keyFields field.1 data) field.2))
  | .list (.record element) =>
    match splitBeside? keyFields element data with
    | some (field, parts) =>
      .record (parts.map fun part =>
        (part.1, splitAlong keyFields (some part.2) (.record (without element field))))
    | none => .list (.record element)
  | .list t => .list t
termination_by t => sizeOf t
decreasing_by
  · simp
  · next member =>
    have smaller := List.sizeOf_lt_of_mem member
    obtain ⟨label, t⟩ := field
    simp only [TypeExpr.record.sizeOf_spec, Prod.mk.sizeOf_spec] at smaller ⊢
    omega
  · have smaller := sizeOf_without field element
    simp only [TypeExpr.record.sizeOf_spec, TypeExpr.list.sizeOf_spec]
    omega

section

variable {keyFields : List String} {data : Option Value}

theorem splitAlong_list {element : TypeExpr} (other : ∀ fields, element ≠ .record fields) :
    splitAlong keyFields data (.list element) = .list element := by
  rw [splitAlong]
  exact other

theorem splitBeside?_eq_some {element : Fields} {field : String} {parts : List (String × Value)} :
    splitBeside? keyFields element data = some (field, parts) ↔
      ∃ items keyed, data = some (.list items) ∧ KeyedList.of? keyFields items = some keyed ∧
        field? element keyed.field = some .text ∧ field = keyed.field ∧
          parts = namedItems keyed.field items := by
  constructor
  · intro split
    unfold splitBeside? at split
    split at split
    · next items =>
      split at split
      · next keyed isKeyed =>
        split at split
        · next hasField =>
          cases split
          exact ⟨items, keyed, rfl, isKeyed, hasField, rfl, rfl⟩
        · cases split
      · cases split
    · cases split
  · rintro ⟨items, keyed, rfl, isKeyed, hasField, rfl, rfl⟩
    simp only [splitBeside?, isKeyed, if_pos hasField]

end

end TypeExpr

/-!
### The table beside the data

The invariant of the walk is that the table agrees with the data that stands beside the type. At a
list the table then knows what looking at the data tells, and behind a label it agrees with the part
to which the label leads.
-/

namespace Value.DistinctKeys

variable {keyFields : List String} {value : Value}

theorem entries {entries : Entries} (distinct : DistinctKeys (.map entries)) :
    entries.Distinct ∧ ∀ entry ∈ entries, DistinctKeys entry.2 := by
  cases distinct with
  | atom atom => cases atom
  | map distinct all => exact ⟨distinct, all⟩

theorem items {items : List Value} (distinct : DistinctKeys (.list items)) :
    ∀ item ∈ items, DistinctKeys item := by
  cases distinct with
  | atom atom => cases atom
  | list all => exact all

theorem ofFields {parts : List (String × Value)} (nodup : (parts.map Prod.fst).Nodup)
    (all : ∀ part ∈ parts, part.2.DistinctKeys) : (Value.ofFields parts).DistinctKeys := by
  refine .map (distinct_ofFields nodup) fun entry listed => ?_
  obtain ⟨part, member, rfl⟩ := List.mem_map.1 listed
  exact all part member

theorem unambiguous (distinct : value.DistinctKeys) :
    SampleIndex.Unambiguous keyFields value := by
  cases value with
  | map entries => exact SampleIndex.unambiguous_map distinct.entries.1
  | list items => exact SampleIndex.unambiguous_list keyFields items
  | _ => exact List.nodup_nil

/-- Every part has what its value has: dropping the key field of an item leaves the other keys
different. -/
theorem part (distinct : value.DistinctKeys) {label : String} {part : Value}
    (member : (label, part) ∈ SampleIndex.children keyFields value) : part.DistinctKeys := by
  cases value with
  | map entries =>
      obtain ⟨entry, listed, same⟩ := List.mem_map.1 member
      cases same
      exact distinct.entries.2 entry listed
  | list items =>
      rw [SampleIndex.children] at member
      split at member
      · cases member
      · next keyed _ =>
        obtain ⟨entries, listed, rfl⟩ := SampleIndex.mem_namedItems member
        have item := (distinct.items _ listed).entries
        refine .map (item.1.sublist (List.filter_sublist.map _)) fun entry kept => ?_
        exact item.2 entry (List.mem_filter.1 kept).1
  | _ => cases member

end Value.DistinctKeys

namespace SampleIndex

variable {keyFields : List String} {index : SampleIndex} {path : LabelPath} {data : Option Value}

theorem keyedInEntries_nil (keyFields : List String) (skipped : Option String) :
    ∀ entries : Entries, keyedInEntries keyFields skipped entries [] = none
  | [] => by rw [keyedInEntries]
  | (key, value) :: rest => by
      have others := keyedInEntries_nil keyFields skipped rest
      simp [keyedInEntries, others, List.isPrefixOf?]

/-- The empty path leads to the value itself, which is a keyed list or it is not. -/
theorem keyedAt_nil_eq_some {value : Value} {keyed : KeyedList} :
    keyedAt keyFields value [] = some keyed ↔
      ∃ items, value = .list items ∧ KeyedList.of? keyFields items = some keyed := by
  cases value with
  | map entries => simp [keyedAt, keyedInEntries_nil]
  | list items =>
      rw [keyedAt]
      cases isKeyed : KeyedList.of? keyFields items <;> simp [isKeyed]
  | _ => simp [keyedAt]

/-- The table splits a list of records just as the data beside it says. -/
theorem Agrees.splitting?_eq_some (agrees : Agrees keyFields index path data) {element : Fields}
    {keyed : KeyedList} :
    Pass.splitting? index keyFields path element = some keyed ↔
      ∃ items, data = some (.list items) ∧ KeyedList.of? keyFields items = some keyed ∧
        field? element keyed.field = some .text := by
  have here : index.lookup path = data.bind (keyedAt keyFields · []) := by simpa using agrees []
  rw [Pass.splitting?_eq_some, here]
  constructor
  · rintro ⟨found, _, hasField, _, _⟩
    obtain ⟨value, rfl, leads⟩ := Option.bind_eq_some_iff.1 found
    obtain ⟨items, rfl, isKeyed⟩ := keyedAt_nil_eq_some.1 leads
    exact ⟨items, rfl, isKeyed, hasField⟩
  · rintro ⟨items, rfl, isKeyed, hasField⟩
    obtain ⟨member, nonempty, nodup, _⟩ := KeyedList.of?_eq_some isKeyed
    exact ⟨keyedAt_nil_eq_some.2 ⟨items, rfl, isKeyed⟩, member, hasField, nonempty, nodup⟩

end SampleIndex

/-!
### The walk
-/

namespace Pass

open SampleIndex

variable {keyFields : List String}

/-- Where the table agrees with the data beside a type, the pass does what the direct walk does. The
induction is on the type, with the cases of the pass. -/
theorem splitLists_of_agrees {index : SampleIndex} (t : TypeExpr) :
    ∀ (path : LabelPath) (data : Option Value), Agrees keyFields index path data →
      (∀ value ∈ data, value.DistinctKeys) →
        splitLists index keyFields path t = splitAlong keyFields data t := by
  induction t using byLists with
  | scalar name =>
      intro path data _ _
      rw [splitLists, splitAlong]
  | optional inner ih =>
      intro path data agrees distinct
      rw [splitLists, splitAlong, ih path data agrees distinct]
  | list element other _ =>
      intro path data _ _
      rw [splitLists_list index keyFields path other, splitAlong_list other]
  | records element ih =>
      intro path data agrees distinct
      cases taken : splitting? index keyFields path element with
      | none =>
          have stays : splitBeside? keyFields element data = none := by
            refine Option.eq_none_iff_forall_ne_some.2 ?_
            rintro ⟨field, parts⟩ split
            obtain ⟨items, keyed, eq, isKeyed, hasField, _, _⟩ := splitBeside?_eq_some.1 split
            have known := agrees.splitting?_eq_some.2 ⟨items, eq, isKeyed, hasField⟩
            rw [taken] at known
            cases known
          rw [splitLists_unsplit index keyFields taken, splitAlong, stays]
      | some keyed =>
          obtain ⟨items, rfl, isKeyed, hasField⟩ := agrees.splitting?_eq_some.1 taken
          have beside := splitBeside?_eq_some.2 ⟨items, keyed, rfl, isKeyed, hasField, rfl, rfl⟩
          obtain ⟨_, _, _, named⟩ := KeyedList.of?_eq_some isKeyed
          have unambiguous := unambiguous_list keyFields items
          have parts : children keyFields (.list items) = namedItems keyed.field items := by
            simp only [children, isKeyed]
          rw [splitLists_records index keyFields taken, splitAlong, beside,
            ← namedItems_names named, List.map_map, TypeExpr.record.injEq]
          refine List.map_congr_left fun part member => congrArg (Prod.mk part.1) ?_
          rw [← parts] at member
          refine ih _ (List.filter_subset_self element) (path ++ [part.1]) (some part.2) ?_ ?_
          · have behind := agrees.child (by simpa using unambiguous) part.1
            rwa [Option.bind_some, lookup_of_mem unambiguous member] at behind
          · rintro _ ⟨⟩
            exact (distinct _ rfl).part member
  | record fields ih =>
      intro path data agrees distinct
      rw [splitLists_record, splitAlong, TypeExpr.record.injEq]
      refine List.map_congr_left fun field member => congrArg (Prod.mk field.1) ?_
      refine ih field member (path ++ [field.1]) _ ?_ ?_
      · exact agrees.child (fun value beside => (distinct value beside).unambiguous) field.1
      · intro part inside
        obtain ⟨value, beside, leads⟩ := Option.bind_eq_some_iff.1 inside
        obtain ⟨before, after, split, _⟩ := List.lookup_eq_some_iff.1 leads
        have member : (field.1, part) ∈ children keyFields value := by simp [split]
        exact (distinct value beside).part member

/-- The pass with the table of a sample is the direct walk over the type and the sample. -/
theorem apply_eq_splitAlong (keyFields : List String) {sample : Value}
    (distinct : sample.DistinctKeys) (t : TypeExpr) :
    (Pass.listToRecord (.ofValue keyFields sample) keyFields).apply t =
      splitAlong keyFields (some sample) t := by
  refine splitLists_of_agrees t [] (some sample) (agrees_ofValue keyFields sample) ?_
  rintro _ ⟨⟩
  exact distinct

/-- Items with ports of their own, ports in a list that is not keyed, and a name that is a label
elsewhere. -/
theorem apply_eq_splitAlong_nested :
    let port (name : String) : Value := .ofFields [("name", .text name), ("port", .int 80)]
    let pod (name : String) (ports : List Value) : Value :=
      .ofFields [("id", .text name), ("ports", .list ports)]
    let sample : Value := .ofFields
      [("pods", .list [pod "web" [port "x", port "y"], pod "ports" [port "z", port "z"]]),
        ("web", .ofFields [("ports", .list [port "q"])])]
    let portType : TypeExpr := .record [("name", .text), ("port", .scalar "Natural")]
    let podType : TypeExpr := .record [("id", .text), ("ports", .optional (.list portType))]
    let t : TypeExpr := .record
      [("pods", .list podType), ("web", .record [("ports", .list portType)])]
    let number : TypeExpr := .record [("port", .scalar "Natural")]
    sample.DistinctKeys ∧
      splitAlong ["name", "id"] (some sample) t = .record
        [("pods", .record
          [("web", .record [("ports", .optional (.record [("x", number), ("y", number)]))]),
            ("ports", .record [("ports", .optional (.list portType))])]),
          ("web", .record [("ports", .record [("q", number)])])] := by
  intro port pod sample portType podType t number
  have text : ∀ s, (Value.text s).DistinctKeys := fun s => .atom trivial
  have int : ∀ i, (Value.int i).DistinctKeys := fun i => .atom trivial
  have ports : ∀ names : List String, (Value.list (names.map port)).DistinctKeys := by
    refine fun names => .list fun item listed => ?_
    obtain ⟨name, _, rfl⟩ := List.mem_map.1 listed
    exact .ofFields (by simp) (by simp [text, int])
  have pods : ∀ name ports, (Value.list ports).DistinctKeys → (pod name ports).DistinctKeys :=
    fun name ports distinct => .ofFields (by simp) (by simp [text, distinct])
  have distinct : sample.DistinctKeys := by
    have first := pods "web" _ (ports ["x", "y"])
    have second := pods "ports" _ (ports ["z", "z"])
    have third : (Value.ofFields [("ports", .list [port "q"])]).DistinctKeys :=
      .ofFields (by simp) (by simpa using ports ["q"])
    refine .ofFields (by simp) ?_
    simp only [List.mem_cons, List.not_mem_nil, or_false, forall_eq_or_imp, forall_eq]
    exact ⟨.list (by simpa using ⟨first, second⟩), third⟩
  refine ⟨distinct, ?_⟩
  rw [← apply_eq_splitAlong ["name", "id"] distinct]
  decide

end Pass

end TypedManifests
