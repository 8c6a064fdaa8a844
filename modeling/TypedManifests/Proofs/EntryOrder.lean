/-
Module: TypedManifests.Proofs.EntryOrder
Purpose: The order of the entries of a mapping says nothing. In samples that differ in it alone
  every path leads to lists that are keyed alike, so they strengthen every type alike; and by every
  type they are reshaped to data that differs in it alone. Putting well-known keys first changes the
  order of entries and nothing else, and so no strengthened type.
Main exports: Value.SameUpToOrder.distinctKeys, KeyedList.of?_of_same, SampleIndex.keyedAt_of_same,
  Settings.strengthenType_of_same, Reshaping.conform_of_same, KeyOrder.same_ordered,
  entry_order_irrelevant
-/
import TypedManifests.Manifest.KeyOrder
import TypedManifests.Proofs.ParallelWalk
import TypedManifests.Proofs.Recovery
import TypedManifests.Settings

namespace TypedManifests

open TypedManifests.TypeExpr
open TypedManifests.Value

/-!
### Mappings that differ in the order of their entries

Where the texts of the keys are different, a key leads to one entry at most, wherever that stands.
-/

namespace Value

variable {entries entries' : Entries} {R : Value → Value → Prop}

/-- Entries that are related one by one have the same keys. -/
theorem map_key_of_forall₂ {α : Type} (f : Value → α)
    (each : List.Forall₂ (SameEntry R) entries entries') :
    (entries.map fun entry => f entry.1) = entries'.map fun entry => f entry.1 := by
  induction each with
  | nil => rfl
  | cons first _ ih =>
      cases first
      rw [List.map_cons, List.map_cons, ih]

namespace SameUpToOrder

/-- What stands in the second of two mappings stands in the first under the same key. -/
theorem exists_entry_left (same : SameUpToOrder (.map entries) (.map entries')) {key w : Value}
    (member : (key, w) ∈ entries') : ∃ v, (key, v) ∈ entries ∧ SameUpToOrder v w := by
  obtain ⟨middle, each, reordered⟩ := same.map_inv
  obtain ⟨_, listed, related⟩ := exists_right_of_forall₂ each.flip (reordered.mem_iff.2 member)
  obtain ⟨_, values⟩ := related
  exact ⟨_, listed, values⟩

theorem distinct (same : SameUpToOrder (.map entries) (.map entries'))
    (distinct : entries.Distinct) : entries'.Distinct := by
  obtain ⟨middle, each, reordered⟩ := same.map_inv
  rw [Entries.Distinct, map_key_of_forall₂ keyText each] at distinct
  exact (reordered.map _).nodup_iff.1 distinct

/-- The keys of all mappings stay different. The induction is on the first value. -/
theorem distinctKeys {v v' : Value} (distinct : v.DistinctKeys) (same : SameUpToOrder v v') :
    v'.DistinctKeys := by
  induction distinct generalizing v' with
  | null => exact same.null_iff.1 rfl ▸ .null
  | atom atom =>
      cases same with
      | refl => exact .atom atom
      | list | map => cases atom
  | @list items all ih =>
      cases same with
      | refl => exact .list all
      | list each =>
          refine .list fun item member => ?_
          obtain ⟨given, listed, related⟩ := exists_right_of_forall₂ each.flip member
          exact ih given listed related
  | @map entries distinct all ih =>
      cases same with
      | refl => exact .map distinct all
      | @map _ _ entries' each reordered =>
          have whole : SameUpToOrder (.map entries) (.map entries') := .map each reordered
          refine .map (whole.distinct distinct) fun entry member => ?_
          obtain ⟨v, listed, values⟩ := whole.exists_entry_left member
          exact ih _ listed values

/-- Dropping a label from both keeps them the same. -/
theorem without (same : SameUpToOrder (.map entries) (.map entries')) (label : String) :
    SameUpToOrder (.map (entries.without label)) (.map (entries'.without label)) := by
  obtain ⟨middle, each, reordered⟩ := same.map_inv
  refine .map (List.rel_filter ?_ each) (reordered.filter _)
  rintro _ _ ⟨⟩
  rfl

/-- Values that are changed alike under each key stay the same. -/
theorem map_congr (same : SameUpToOrder (.map entries) (.map entries')) {f : Value → Value}
    {g : Value → Value → Value}
    (values : ∀ key v w, (key, v) ∈ entries → SameUpToOrder v w →
      SameUpToOrder (g key v) (g key w)) :
    SameUpToOrder (.map (entries.map fun entry => (f entry.1, g entry.1 entry.2)))
      (.map (entries'.map fun entry => (f entry.1, g entry.1 entry.2))) := by
  obtain ⟨middle, each, reordered⟩ := same.map_inv
  refine .map ?_ (reordered.map _)
  rw [List.forall₂_map_left_iff, List.forall₂_map_right_iff]
  refine forall₂_imp_mem each ?_
  rintro ⟨key, v⟩ member _ _ ⟨_, related⟩
  exact .entry _ (values key v _ member related)

end SameUpToOrder

end Value

/-- Two lookups find the same if each finds what the other one does. -/
theorem rel_of_found {x y : Option Value}
    (right : ∀ v, x = some v → ∃ w, y = some w ∧ SameUpToOrder v w)
    (left : ∀ w, y = some w → ∃ v, x = some v) : Option.Rel SameUpToOrder x y := by
  cases x with
  | some v =>
      obtain ⟨w, rfl, values⟩ := right v rfl
      exact .some values
  | none =>
      cases y with
      | none => exact .none
      | some w =>
          obtain ⟨v, found⟩ := left w rfl
          cases found

/-- What is told of the values found is the same if it is the same of values that are the same. -/
theorem bind_of_rel {α : Type} {x y : Option Value} (found : Option.Rel SameUpToOrder x y)
    {f : Value → Option α} (alike : ∀ v ∈ x, ∀ w, SameUpToOrder v w → f v = f w) :
    x.bind f = y.bind f := by
  cases found with
  | none => rfl
  | some values => exact alike _ rfl _ values

namespace Entries

variable {entries entries' : Entries} {key : String}

/-- The entry that a key leads to. -/
theorem get?_eq_some_iff {value : Value} : ∀ {entries : Entries}, entries.Distinct →
    (entries.get? key = some value ↔ (.text key, value) ∈ entries)
  | [], _ => by simp [get?]
  | (first, held) :: rest, distinct => by
      rw [Distinct, List.map_cons, List.nodup_cons] at distinct
      rw [get?_cons, List.mem_cons]
      by_cases here : first.isTextOf key = true
      · obtain rfl := isTextOf_iff.1 here
        have missing : (.text key, value) ∉ rest := fun member =>
          distinct.1 (List.mem_map.2 ⟨_, member, rfl⟩)
        simp [here, missing, eq_comm]
      · have other : .text key ≠ first := by
          rintro rfl
          simp [isTextOf] at here
        rw [if_neg here, get?_eq_some_iff distinct.2]
        simp [other]

theorem get?_of_same (distinct : entries.Distinct)
    (same : SameUpToOrder (.map entries) (.map entries')) (key : String) :
    Option.Rel SameUpToOrder (entries.get? key) (entries'.get? key) := by
  have distinct' := same.distinct distinct
  refine rel_of_found (fun v found => ?_) fun w found => ?_
  · obtain ⟨w, member, values⟩ := same.exists_entry ((get?_eq_some_iff distinct).1 found)
    exact ⟨w, (get?_eq_some_iff distinct').2 member, values⟩
  · obtain ⟨v, member, _⟩ := same.exists_entry_left ((get?_eq_some_iff distinct').1 found)
    exact ⟨v, (get?_eq_some_iff distinct).2 member⟩

end Entries

/-!
### Lists that are keyed alike
-/

namespace KeyedList

variable {items items' : List Value}

/-- An item carries its name under a key field, wherever that stands. -/
theorem name?_of_same (field : String) {item item' : Value} (distinct : item.DistinctKeys)
    (same : SameUpToOrder item item') : name? field item = name? field item' := by
  cases same with
  | refl => rfl
  | list each => rfl
  | @map entries _ entries' each reordered =>
      have found := Entries.get?_of_same distinct.entries.1 (.map each reordered) field
      have texts : (Entries.get? entries field).bind text? =
          (Entries.get? entries' field).bind text? := by
        refine bind_of_rel found fun v _ w same => ?_
        cases same <;> rfl
      simp only [name?, entries?, Option.bind_eq_bind, Option.bind_some]
      rw [← Option.bind_assoc, ← Option.bind_assoc, texts]

theorem map_name?_of_same (field : String) (distinct : ∀ item ∈ items, item.DistinctKeys)
    (each : List.Forall₂ SameUpToOrder items items') :
    items.map (name? field) = items'.map (name? field) := by
  induction each with
  | nil => rfl
  | cons first _ ih =>
      rw [List.map_cons, List.map_cons, name?_of_same field (distinct _ List.mem_cons_self) first,
        ih fun item member => distinct item (List.mem_cons_of_mem _ member)]

/-- Whether and how a list is keyed does not depend on the order of entries in its items. -/
theorem of?_of_same (keyFields : List String) (distinct : ∀ item ∈ items, item.DistinctKeys)
    (each : List.Forall₂ SameUpToOrder items items') :
    of? keyFields items = of? keyFields items' := by
  have names : ∀ field, names? field items = names? field items' := by
    intro field
    rw [names?, names?]
    refine congrArg _ (Option.ext fun names => ?_)
    rw [mapM_eq_some, mapM_eq_some, map_name?_of_same field distinct each]
  have empty : items.isEmpty = items'.isEmpty := by cases each <;> rfl
  simp only [of?, names, empty]

end KeyedList

/-!
### Paths

Out of values that are the same the same labels lead to parts that are the same. So a path leads to
lists that are keyed alike, by induction on the path, and the tables agree that hold them.
-/

namespace SampleIndex

variable {keyFields : List String} {v v' : Value} {items items' : List Value}

theorem namedItems_of_same {field : String} (distinct : ∀ item ∈ items, item.DistinctKeys)
    (each : List.Forall₂ SameUpToOrder items items') :
    SameUpToOrder (.ofFields (namedItems field items)) (.ofFields (namedItems field items')) := by
  suffices parts : List.Forall₂ (SameEntry SameUpToOrder)
      ((namedItems field items).map fun part => (.text part.1, part.2))
      ((namedItems field items').map fun part => (.text part.1, part.2)) from
    .map parts (.refl _)
  induction each with
  | nil => exact .nil
  | @cons item item' _ _ first _ ih =>
      have name := KeyedList.name?_of_same field (distinct _ List.mem_cons_self) first
      have others := ih fun item member => distinct item (List.mem_cons_of_mem _ member)
      cases first with
      | refl =>
          cases item with
          | map entries => exact .cons (sameEntry_refl _) others
          | _ => exact others
      | list each => exact others
      | map each reordered =>
          simp only [namedItems, List.map_cons, name]
          exact .cons (.entry _ (SameUpToOrder.without (.map each reordered) field)) others

/-- The parts of values that are the same. -/
theorem children_of_same (distinct : v.DistinctKeys) (same : SameUpToOrder v v') :
    SameUpToOrder (.ofFields (children keyFields v)) (.ofFields (children keyFields v')) := by
  cases same with
  | refl => exact .refl _
  | list each =>
      simp only [children, ← KeyedList.of?_of_same keyFields distinct.items each]
      split
      · exact .refl _
      · exact namedItems_of_same distinct.items each
  | map each reordered =>
      have whole := SameUpToOrder.map each reordered
      have texts := whole.map_congr (f := fun key => .text key.keyText) (g := fun _ value => value)
        fun _ _ _ _ values => values
      simpa [Value.ofFields, children, Function.comp_def] using texts

/-- A label leads to parts that are the same. -/
theorem lookup_children_of_same (distinct : v.DistinctKeys) (same : SameUpToOrder v v')
    (label : String) : Option.Rel SameUpToOrder ((children keyFields v).lookup label)
      ((children keyFields v').lookup label) := by
  have parts : SameUpToOrder (.ofFields (children keyFields v))
      (.ofFields (children keyFields v')) := children_of_same distinct same
  have nodup : Unambiguous keyFields v := distinct.unambiguous
  have nodup' : Unambiguous keyFields v' := (same.distinctKeys distinct).unambiguous
  have leads : ∀ {parts : List (String × Value)} {part : Value}, (parts.map Prod.fst).Nodup →
      (parts.lookup label = some part ↔
        (.text label, part) ∈ parts.map fun part => (Value.text part.1, part.2)) := by
    intro parts part nodup
    constructor
    · intro found
      obtain ⟨before, after, rfl, _⟩ := List.lookup_eq_some_iff.1 found
      simp
    · intro member
      obtain ⟨⟨name, value⟩, listed, eq⟩ := List.mem_map.1 member
      cases eq
      exact lookup_of_mem nodup listed
  refine rel_of_found (fun part found => ?_) fun part found => ?_
  · obtain ⟨part', member, values⟩ := parts.exists_entry ((leads nodup).1 found)
    exact ⟨part', (leads nodup').2 member, values⟩
  · obtain ⟨part', member, _⟩ := parts.exists_entry_left ((leads nodup').1 found)
    exact ⟨part', (leads nodup).2 member⟩

/-- A path leads to lists that are keyed alike. -/
theorem keyedAt_of_same (path : LabelPath) : ∀ {v v' : Value}, v.DistinctKeys →
    SameUpToOrder v v' → keyedAt keyFields v path = keyedAt keyFields v' path := by
  induction path with
  | nil =>
      intro v v' distinct same
      cases same with
      | refl => rfl
      | list each =>
          simp only [keyedAt, KeyedList.of?_of_same keyFields distinct.items each, if_pos]
      | map each reordered => simp only [keyedAt, keyedInEntries_nil]
  | cons label path ih =>
      intro v v' distinct same
      rw [keyedAt_cons distinct.unambiguous,
        keyedAt_cons (same.distinctKeys distinct).unambiguous]
      refine bind_of_rel (lookup_children_of_same distinct same label) fun part found _ values => ?_
      obtain ⟨before, after, split, _⟩ := List.lookup_eq_some_iff.1 found
      have member : (label, part) ∈ children keyFields v := by simp [split]
      exact ih (distinct.part member) values

end SampleIndex

/-!
### Strengthening
-/

namespace Pass

/-- With the table of either sample the pass makes the same of every type. -/
theorem apply_of_same (keyFields : List String) {data data' : Value} (distinct : data.DistinctKeys)
    (same : SameUpToOrder data data') (t : TypeExpr) :
    (Pass.listToRecord (.ofValue keyFields data) keyFields).apply t =
      (Pass.listToRecord (.ofValue keyFields data') keyFields).apply t := by
  -- Both tables agree with the second sample.
  have agrees : SampleIndex.Agrees keyFields (.ofValue keyFields data) [] (some data') := by
    intro path
    rw [List.nil_append, SampleIndex.lookup_ofValue, Option.bind_some,
      SampleIndex.keyedAt_of_same path distinct same]
  have distinct' : ∀ value ∈ some data', value.DistinctKeys := by
    rintro _ ⟨⟩
    exact same.distinctKeys distinct
  rw [apply, apply, splitLists_of_agrees t [] _ agrees distinct',
    splitLists_of_agrees t [] _ (SampleIndex.agrees_ofValue keyFields data') distinct']

/-- Passes of the same names that do the same one by one do the same together. -/
theorem applyAll_congr {passes passes' : List Pass}
    (each : List.Forall₂
      (fun pass pass' => pass.name = pass'.name ∧ ∀ t, pass.apply t = pass'.apply t)
      passes passes') : ∀ t, applyAll passes t = applyAll passes' t := by
  induction each with
  | nil => exact fun _ => rfl
  | cons first _ ih =>
      intro t
      simp only [applyAll, first.1, first.2, ih]

end Pass

namespace Settings

/-- Samples that differ in the order of entries alone strengthen every text alike, also to the same
fault. -/
theorem strengthenType_of_same (s : Settings) (layout : Layout) (source : String)
    {data data' : Value} (distinct : data.DistinctKeys) (same : SameUpToOrder data data') :
    s.strengthenType layout source (some data) = s.strengthenType layout source (some data') := by
  have passes : ∀ t, Pass.applyAll (s.passesFor (some data)) t =
      Pass.applyAll (s.passesFor (some data')) t := by
    refine Pass.applyAll_congr ?_
    have itself (passes : List Pass) : List.Forall₂ (fun pass pass' : Pass =>
        pass.name = pass'.name ∧ ∀ t, pass.apply t = pass'.apply t) passes passes :=
      List.forall₂_same.2 fun _ _ => ⟨rfl, fun _ => rfl⟩
    simp only [passesFor, Option.map_some, Settings.passes]
    split
    · exact .nil
    · split
      · exact itself _
      · exact .cons ⟨rfl, Pass.apply_of_same s.keyFields distinct same⟩ (itself _)
  simp only [strengthenType, Strengthening.ofText, passes]

end Settings

/-!
### Reshaping
-/

namespace Reshaping

/-- By every type, data that is the same is reshaped to data that is the same. The induction is on
the type; a keyed list is reshaped like the mapping of its items by name. -/
theorem conform_of_same (r : Reshaping) (t : TypeExpr) : ∀ (label : Option String) {v v' : Value},
    v.DistinctKeys → SameUpToOrder v v' →
      SameUpToOrder (r.conform label t v) (r.conform label t v') := by
  induction t with
  | scalar name =>
      intro label v v' _ same
      rwa [conform_scalar, conform_scalar]
  | optional inner ih =>
      intro label v v' distinct same
      rw [conform_optional, conform_optional]
      exact ih label distinct same
  | list element ih =>
      intro label v v' distinct same
      cases same with
      | refl => exact .refl _
      | list each =>
          rw [conform_list, conform_list]
          refine .list ?_
          rw [List.forall₂_map_left_iff, List.forall₂_map_right_iff]
          exact forall₂_imp_mem each fun item member _ _ same =>
            ih none (distinct.items item member) same
      | map each reordered =>
          rw [r.conform_noList _ _ (by simp), r.conform_noList _ _ (by simp)]
          exact .map each reordered
  | record fields ih =>
      intro label v v' distinct same
      have part : ∀ name {v v' : Value}, v.DistinctKeys → SameUpToOrder v v' →
          SameUpToOrder (r.conformAt fields name v) (r.conformAt fields name v') := by
        intro name v v' distinct same
        rw [conformAt_eq, conformAt_eq]
        cases typed : field? fields name with
        | none => exact same
        | some t => exact ih _ (mem_of_field? typed) (some name) distinct same
      have mapping : ∀ {entries entries' : Entries}, (Value.map entries).DistinctKeys →
          SameUpToOrder (.map entries) (.map entries') →
            SameUpToOrder (r.conform label (.record fields) (.map entries))
              (r.conform label (.record fields) (.map entries')) := by
        intro entries entries' distinct same
        rw [conform_map _ _ _ distinct.entries.1,
          conform_map _ _ _ (same.distinctKeys distinct).entries.1]
        exact same.map_congr (f := id) fun key v w member values =>
          part key.keyText (distinct.entries.2 _ member) values
      cases same with
      | refl => exact .refl _
      | @list items _ each =>
          have alike := KeyedList.of?_of_same r.keyFields distinct.items each
          cases isKeyed : KeyedList.of? r.keyFields items with
          | none =>
              rw [conform, conform, ← alike, isKeyed]
              exact .list each
          | some keyed =>
              rw [r.conform_keyed label fields isKeyed,
                r.conform_keyed label fields (alike ▸ isKeyed)]
              refine mapping ?_ (SampleIndex.namedItems_of_same distinct.items each)
              obtain ⟨_, _, nodup, named⟩ := KeyedList.of?_eq_some isKeyed
              refine .ofFields (SampleIndex.namedItems_names named ▸ nodup) fun child member => ?_
              have inside : child ∈ SampleIndex.children r.keyFields (.list items) := by
                simpa only [SampleIndex.children, isKeyed] using member
              exact distinct.part inside
      | map each reordered => exact mapping distinct (.map each reordered)

end Reshaping

/-!
### The customary order of keys
-/

namespace KeyOrder

/-- The entries under some keys, key by key, and then all others are a rearrangement. -/
theorem perm_keysFirst : ∀ {keys : List String}, keys.Nodup → ∀ entries : Entries,
    (keys.flatMap (fun key => entries.filter fun entry => entry.1.isTextOf key) ++
      entries.filter fun entry => !keys.any entry.1.isTextOf).Perm entries
  | [], _, entries => by simp
  | key :: rest, nodup, entries => by
      rw [List.nodup_cons] at nodup
      -- The later keys take their entries from those that the first key leaves.
      let left := entries.filter fun entry => !entry.1.isTextOf key
      have later : ∀ k ∈ rest, (left.filter fun entry => entry.1.isTextOf k) =
          entries.filter fun entry => entry.1.isTextOf k := by
        intro k member
        rw [List.filter_filter]
        refine List.filter_congr fun entry _ => ?_
        by_cases here : entry.1.isTextOf k = true
        · have other : k ≠ key := fun same => nodup.1 (same ▸ member)
          rw [isTextOf_iff.1 here]
          simp [isTextOf, other]
        · simp [here]
      have others : (left.filter fun entry => !rest.any entry.1.isTextOf) =
          entries.filter fun entry => !(key :: rest).any entry.1.isTextOf := by
        rw [List.filter_filter]
        refine List.filter_congr fun entry _ => ?_
        rw [List.any_cons, Bool.not_or, Bool.and_comm]
      have rearranged := perm_keysFirst nodup.2 left
      rw [others, List.flatMap_congr later] at rearranged
      rw [List.flatMap_cons, List.append_assoc]
      exact (rearranged.append_left _).trans (List.filter_append_perm _ entries)

theorem headFirst_perm (entries : Entries) : (headFirst entries).Perm entries :=
  perm_keysFirst (by decide) entries

mutual

/-- A value in customary order differs from the value in the order of entries alone. -/
theorem same_ordered : ∀ v : Value, SameUpToOrder v (ordered v)
  | .list items => by
      rw [ordered]
      exact .list (same_orderedItems items)
  | .map entries => by
      rw [ordered]
      exact .map (same_orderedEntries entries) (headFirst_perm _).symm
  | .null | .bool _ | .int _ | .float _ | .text _ | .date _ | .time _ => by
      rw [ordered] <;> first | exact .refl _ | simp

theorem same_orderedItems : ∀ items : List Value,
    List.Forall₂ SameUpToOrder items (orderedItems items)
  | [] => by
      rw [orderedItems]
      exact .nil
  | v :: rest => by
      rw [orderedItems]
      exact .cons (same_ordered v) (same_orderedItems rest)

theorem same_orderedEntries : ∀ entries : List (Value × Value),
    List.Forall₂ (SameEntry SameUpToOrder) entries (orderedEntries entries)
  | [] => by
      rw [orderedEntries]
      exact .nil
  | (key, v) :: rest => by
      rw [orderedEntries]
      exact .cons (.entry key (same_ordered v)) (same_orderedEntries rest)

end

end KeyOrder

/-!
### Two orders of one sample
-/

/-- Two samples that differ in the order of entries alone strengthen every type text alike, under
all settings, and are reshaped by every type to data that differs in the order of entries alone. In
particular the sample in customary order strengthens types just as the sample itself does. -/
theorem entry_order_irrelevant {data data' : Value} (distinct : data.DistinctKeys)
    (same : SameUpToOrder data data') :
    (∀ (s : Settings) (layout : Layout) (source : String),
      s.strengthenType layout source (some data) =
        s.strengthenType layout source (some data')) ∧
    (∀ (conventions : List ImageConvention) (keyFields : List String) (t : TypeExpr),
      SameUpToOrder (conformData conventions keyFields t data)
        (conformData conventions keyFields t data')) ∧
    ∀ (s : Settings) (layout : Layout) (source : String),
      s.strengthenType layout source (some data.ordered) =
        s.strengthenType layout source (some data) := by
  refine ⟨fun s layout source => s.strengthenType_of_same layout source distinct same,
    fun conventions keyFields t => ?_, fun s layout source => ?_⟩
  · exact Reshaping.conform_of_same ⟨conventions, keyFields⟩ t none distinct same
  · exact (s.strengthenType_of_same layout source distinct (KeyOrder.same_ordered data)).symm

/-- An item of a keyed list and the mapping around the list, each with its entries in two orders,
and a key that comes first in customary order. -/
theorem entry_order_irrelevant_nested :
    let s : Settings := Settings.default
    let ports : String × Value := ("ports", .list [.ofFields [("name", .text "http")]])
    let name : String × Value := ("name", .text "web")
    let note : String × Value := ("note", .null)
    let kind : String × Value := ("kind", .text "Deployment")
    let data : Value := .ofFields [note, kind, ("pods", .list [.ofFields [name, ports]])]
    let data' : Value := .ofFields [kind, ("pods", .list [.ofFields [ports, name]]), note]
    let podType : TypeExpr :=
      .record [("name", .text), ("ports", .list (.record [("name", .text)]))]
    let source := print .oneLine 0 (.record [("kind", .text), ("pods", .list podType)])
    let pod : TypeExpr := .record [("ports", .record [("http", .record [])])]
    let t : TypeExpr := .record [("kind", .text), ("pods", .record [("web", pod)])]
    data.DistinctKeys ∧ SameUpToOrder data data' ∧ data ≠ data' ∧
      s.strengthenType .block source (some data) = s.strengthenType .block source (some data') ∧
      SameUpToOrder (conformData [] ["name"] t data) (conformData [] ["name"] t data') ∧
      s.strengthenType .block source (some data.ordered) =
        s.strengthenType .block source (some data) := by
  intro s ports name note kind data data' podType source pod t
  have text : ∀ s, (Value.text s).DistinctKeys := fun s => .atom trivial
  have port : (Value.ofFields [("name", .text "http")]).DistinctKeys :=
    .ofFields (by simp) (by simp [text])
  have item : (Value.ofFields [name, ports]).DistinctKeys := by
    have listed : (Value.list [.ofFields [("name", .text "http")]]).DistinctKeys :=
      .list (by simpa using port)
    exact .ofFields (by simp [name, ports]) (by simp [name, ports, text, listed])
  have distinct : data.DistinctKeys := by
    have listed : (Value.list [.ofFields [name, ports]]).DistinctKeys := .list (by simpa using item)
    exact .ofFields (by simp [note, kind]) (by simp [note, kind, text, listed, DistinctKeys.null])
  have items : SameUpToOrder (.ofFields [name, ports]) (.ofFields [ports, name]) :=
    .map (List.forall₂_same.2 fun entry _ => sameEntry_refl entry) (.swap _ _ _)
  have same : SameUpToOrder data data' :=
    .map (.cons (sameEntry_refl _) (.cons (sameEntry_refl _)
      (.cons (.entry _ (.list (.cons items .nil))) .nil)))
      (@List.perm_append_comm (Value × Value) [(.text "note", .null)] _)
  obtain ⟨types, shaped, customary⟩ := entry_order_irrelevant distinct same
  exact ⟨distinct, same, by simp [data, data', note, kind, Value.ofFields], types s .block source,
    shaped [] ["name"] t, customary s .block source⟩

end TypedManifests
