/-
Module: TypedManifests.Proofs.Recovery
Purpose: Making records of keyed lists loses nothing. The type that is made tells by its labels in
  which order the items of a list come and, by the label that is gone from the records of its items,
  under which key field they carried their names; so the type and the reshaped data together
  determine the data, up to the order of the entries of its mappings.
Main exports: SameUpToOrder, conform_of_fits, Recovers, same_of_splitting, same_of_conformAt,
  same_of_conform, same_of_conformData
-/
import Mathlib.Data.List.Perm.Basic
import TypedManifests.Proofs.DataInShape
import TypedManifests.Proofs.Passes
import TypedManifests.Proofs.ReshapedParts

namespace TypedManifests

open TypedManifests.TypeExpr

/-!
### Values up to the order of entries
-/

section

variable {α β : Type} {R S : α → β → Prop} {xs : List α} {ys : List β}

theorem forall₂_imp_mem (each : List.Forall₂ R xs ys)
    (imp : ∀ x ∈ xs, ∀ y ∈ ys, R x y → S x y) : List.Forall₂ S xs ys := by
  induction each with
  | nil => exact .nil
  | cons first _ ih =>
      refine .cons (imp _ List.mem_cons_self _ List.mem_cons_self first) (ih fun x mx y my => ?_)
      exact imp x (List.mem_cons_of_mem _ mx) y (List.mem_cons_of_mem _ my)

theorem exists_right_of_forall₂ (each : List.Forall₂ R xs ys) {x : α} (member : x ∈ xs) :
    ∃ y ∈ ys, R x y := by
  induction each with
  | nil => cases member
  | @cons _ y _ ys first _ ih =>
      rcases List.mem_cons.1 member with rfl | member
      · exact ⟨y, List.mem_cons_self, first⟩
      · obtain ⟨y, listed, related⟩ := ih member
        exact ⟨y, List.mem_cons_of_mem _ listed, related⟩

end

namespace Value

/-- Two entries with one key and with values that are related. -/
inductive SameEntry (related : Value → Value → Prop) : Value × Value → Value × Value → Prop where
  | entry (key : Value) {v w : Value} (values : related v w) :
      SameEntry related (key, v) (key, w)

/-- The values are equal up to the order of entries in their mappings. -/
inductive SameUpToOrder : Value → Value → Prop where
  | refl (v : Value) : SameUpToOrder v v
  | list {items items' : List Value} (each : List.Forall₂ SameUpToOrder items items') :
      SameUpToOrder (.list items) (.list items')
  | map {entries middle entries' : List (Value × Value)}
      (each : List.Forall₂ (SameEntry SameUpToOrder) entries middle)
      (reordered : middle.Perm entries') : SameUpToOrder (.map entries) (.map entries')

theorem sameEntry_refl (entry : Value × Value) : SameEntry SameUpToOrder entry entry :=
  .entry entry.1 (.refl entry.2)

namespace SameUpToOrder

theorem map_inv {entries entries' : Entries}
    (same : SameUpToOrder (.map entries) (.map entries')) :
    ∃ middle, List.Forall₂ (SameEntry SameUpToOrder) entries middle ∧ middle.Perm entries' := by
  cases same with
  | refl => exact ⟨entries, List.forall₂_same.2 fun entry _ => sameEntry_refl entry, .refl _⟩
  | map each reordered => exact ⟨_, each, reordered⟩

/-- Nothing but null is the same as null. -/
theorem null_iff {v w : Value} (same : SameUpToOrder v w) : v = .null ↔ w = .null := by
  cases same <;> simp

/-- The order in which the entries are given is of no account. -/
theorem map_of_perm {entries entries' parts parts' : Entries} (left : entries.Perm parts)
    (same : SameUpToOrder (.map parts) (.map parts')) (right : parts'.Perm entries') :
    SameUpToOrder (.map entries) (.map entries') := by
  obtain ⟨middle, each, reordered⟩ := same.map_inv
  obtain ⟨middle', each', reordered'⟩ := List.perm_comp_forall₂ left each
  exact .map each' (reordered'.trans (reordered.trans right))

/-- What stands in one of two mappings stands in the other under the same key. -/
theorem exists_entry {entries entries' : Entries}
    (same : SameUpToOrder (.map entries) (.map entries')) {key v : Value}
    (member : (key, v) ∈ entries) : ∃ w, (key, w) ∈ entries' ∧ SameUpToOrder v w := by
  obtain ⟨middle, each, reordered⟩ := same.map_inv
  obtain ⟨_, listed, ⟨_, values⟩⟩ := exists_right_of_forall₂ each member
  exact ⟨_, reordered.subset listed, values⟩

/-- If entries are the same after their values were changed in one way, and values that became the
same had been the same, the entries had been the same. -/
theorem map_of_map {f : Value × Value → Value} {entries entries' : Entries}
    (same : SameUpToOrder (.map (entries.map fun entry => (entry.1, f entry)))
      (.map (entries'.map fun entry => (entry.1, f entry))))
    (values : ∀ entry ∈ entries, ∀ entry' ∈ entries', entry.1 = entry'.1 →
      SameUpToOrder (f entry) (f entry') → SameUpToOrder entry.2 entry'.2) :
    SameUpToOrder (.map entries) (.map entries') := by
  obtain ⟨middle, each, reordered⟩ := same.map_inv
  obtain ⟨parts, rfl, permuted⟩ : ∃ parts : Entries,
      middle = parts.map (fun entry => (entry.1, f entry)) ∧ parts.Perm entries' := by
    have whole := List.eq_map_comp_perm fun entry : Value × Value => (entry.1, f entry)
    have both := (congrFun (congrFun whole middle) entries').mpr reordered
    exact both
  rw [List.forall₂_map_left_iff, List.forall₂_map_right_iff] at each
  refine .map (forall₂_imp_mem each ?_) permuted
  rintro ⟨key, v⟩ member ⟨key', w⟩ listed related
  obtain ⟨rfl, became⟩ : key = key' ∧ SameUpToOrder (f (key, v)) (f (key', w)) := by
    generalize f (key, v) = a at related
    generalize f (key', w) = b at related
    cases related with
    | entry _ values => exact ⟨rfl, values⟩
  exact .entry key (values _ member _ (permuted.subset listed) rfl became)

end SameUpToOrder

end Value

open Value

variable {admits : String → Value → Prop} {keyFields : List String}

/-!
### Data that fits
-/

/-- Whether a mapping fits does not depend on the order of its entries. -/
theorem Fits.perm {fields : Fields} {entries entries' : Entries}
    (fits : Fits admits (.record fields) (.map entries)) (reordered : entries.Perm entries') :
    Fits admits (.record fields) (.map entries') := by
  cases fits with
  | record distinct present absent =>
      refine .record ((reordered.map _).nodup_iff.1 distinct) ?_ ?_
      · intro field listed entry member
        exact present field listed entry (reordered.mem_iff.2 member)
      · intro field listed missing
        exact absent field listed fun entry member => missing entry (reordered.mem_iff.1 member)

/-- The values of a mapping that fits a record fit the fields with their labels. -/
theorem Fits.record_inv {fields : Fields} {entries : Entries}
    (fits : Fits admits (.record fields) (.map entries)) :
    entries.Distinct ∧ ∀ field ∈ fields, ∀ entry ∈ entries, entry.1.keyText = field.1 →
      Fits admits field.2 entry.2 := by
  cases fits with
  | record distinct present _ => exact ⟨distinct, present⟩

namespace Reshaping

/-- A part of a record under a label that it does not have stays. -/
theorem conformAt_of_notMem (r : Reshaping) {name : String} (value : Value) :
    ∀ {fields : Fields}, name ∉ labels fields → r.conformAt fields name value = value
  | [], _ => by rw [conformAt]
  | (l, t) :: rest, missing => by
      rw [labels, List.map_cons, List.mem_cons, not_or] at missing
      rw [conformAt, if_neg (Ne.symm missing.1)]
      exact r.conformAt_of_notMem value missing.2

/-- A part is reshaped by the new type of the field with its label. -/
theorem conformAt_map (r : Reshaping) (type : String × TypeExpr → TypeExpr) {fields : Fields}
    (unique : (labels fields).Nodup) {field : String × TypeExpr} (listed : field ∈ fields)
    (value : Value) :
    r.conformAt (fields.map fun field => (field.1, type field)) field.1 value =
      r.conform (some field.1) (type field) value :=
  r.conformAt_of_mem value ((labels_map type fields).symm ▸ unique)
    (List.mem_map.2 ⟨field, listed, rfl⟩)

/-- Data that fits a type has its shape already. -/
theorem conform_of_fits (r : Reshaping) (t : TypeExpr) : ∀ (label : Option String) (value : Value),
    t.UniqueLabels → Fits admits t value → r.conform label t value = value :=
  fun label _ _ fits => (inShape_of_fits fits label).conform_eq

/-- Only null becomes null. -/
theorem conform_eq_null (r : Reshaping) {label : Option String} {t : TypeExpr} {value : Value}
    (plain : r.conventions = []) (h : r.conform label t value = .null) : value = .null := by
  have reshaped : r.Reshaped label value .null := ⟨t, h.symm⟩
  cases value with
  | map entries =>
      obtain ⟨_, eq, _⟩ := reshaped_map reshaped
      cases eq
  | list items =>
      rcases reshaped_list reshaped with ⟨_, eq, _⟩ | ⟨keyed, _, reshaped⟩
      · cases eq
      · obtain ⟨_, eq, _⟩ := reshaped_map reshaped
        cases eq
  | text s =>
      rcases reshaped_text reshaped with eq | ⟨c, member, _⟩
      · cases eq
      · simp [plain] at member
  | _ => exact (reshaped_plain (by exact trivial) reshaped).symm

end Reshaping

/-!
### The items of a keyed list
-/

namespace SampleIndex

theorem namedItems_of_mem {field name : String} {entries : Entries} {items : List Value}
    (member : .map entries ∈ items) (named : KeyedList.name? field (.map entries) = some name) :
    (name, .map (entries.without field)) ∈ namedItems field items := by
  apply mem_namedItems_iff.2
  refine ⟨entries, member, ?_, rfl⟩
  rw [named]
  rfl

end SampleIndex

/-- An item is its name under the key field and what it is without it. -/
theorem perm_named {field name : String} : ∀ {entries : Entries}, entries.Distinct →
    entries.get? field = some (.text name) →
      entries.Perm ((.text field, .text name) :: entries.without field)
  | entry :: rest, distinct, got => by
      rw [Entries.Distinct, List.map_cons, List.nodup_cons] at distinct
      rw [Entries.get?_cons] at got
      rw [Entries.without, List.filter_cons]
      by_cases here : entry.1.isTextOf field = true
      · have others : Entries.without rest field = rest := by
          refine List.filter_eq_self.2 fun other member => ?_
          have different : other.1.isTextOf field ≠ true := fun same =>
            distinct.1 (List.mem_map.2 ⟨other, member,
              (keyText_of_isTextOf same).trans (keyText_of_isTextOf here).symm⟩)
          simpa using different
        obtain ⟨key, value⟩ := entry
        obtain rfl := Value.isTextOf_iff.1 here
        rw [if_pos here, Option.some.injEq] at got
        subst got
        rw [if_neg (by simpa using here)]
        exact (List.Perm.of_eq others.symm).cons _
      · rw [if_neg here] at got
        rw [if_pos (by simpa using here)]
        exact ((perm_named distinct.2 got).cons entry).trans (.swap _ _ _)

/-- Two items with one name are the same if the rest of them is. -/
theorem same_items {field name : String} {item item' : Value} {element : Fields}
    (fits : Fits admits (.record element) item) (fits' : Fits admits (.record element) item')
    (named : KeyedList.name? field item = some name)
    (named' : KeyedList.name? field item' = some name)
    (rest : ∀ entries entries' : Entries, item = .map entries → item' = .map entries' →
      SameUpToOrder (.map (entries.without field)) (.map (entries'.without field))) :
    SameUpToOrder item item' := by
  obtain ⟨entries, rfl, got, _⟩ := KeyedList.name?_eq_some.1 named
  obtain ⟨entries', rfl, got', _⟩ := KeyedList.name?_eq_some.1 named'
  cases fits with
  | record distinct =>
      cases fits' with
      | record distinct' =>
          obtain ⟨middle, each, reordered⟩ := (rest _ _ rfl rfl).map_inv
          have whole := List.Forall₂.cons (sameEntry_refl (.text field, .text name)) each
          exact .map_of_perm (perm_named distinct got) (.map whole (reordered.cons _))
            (perm_named distinct' got').symm

/-- Lists whose items have the same names in the same order are the same if items of one name are.
-/
theorem same_lists {field : String} : ∀ {items items' : List Value} {names : List String},
    items.map (KeyedList.name? field) = names.map some →
      items'.map (KeyedList.name? field) = names.map some →
        (∀ name, ∀ item ∈ items, ∀ item' ∈ items', KeyedList.name? field item = some name →
          KeyedList.name? field item' = some name → SameUpToOrder item item') →
          List.Forall₂ SameUpToOrder items items'
  | [], [], _, _, _, _ => .nil
  | [], _ :: _, [], _, h, _ | [], _ :: _, _ :: _, h, _, _ => by cases h
  | _ :: _, _, [], h, _, _ | _ :: _, [], _ :: _, _, h, _ => by cases h
  | item :: items, item' :: items', name :: names, named, named', each => by
      rw [List.map_cons, List.map_cons, List.cons.injEq] at named named'
      refine .cons (each name _ List.mem_cons_self _ List.mem_cons_self named.1 named'.1) ?_
      refine same_lists named.2 named'.2 fun name item member item' member' => ?_
      exact each name item (List.mem_cons_of_mem _ member) item' (List.mem_cons_of_mem _ member')

/-- A keyed list is reshaped to the mapping from its names to its reshaped items. -/
theorem Reshaping.conform_keyed_eq_map (r : Reshaping) (label : Option String) (fields : Fields)
    {items : List Value} {keyed : KeyedList}
    (isKeyed : KeyedList.of? r.keyFields items = some keyed) :
    r.conform label (.record fields) (.list items) =
      .map ((SampleIndex.namedItems keyed.field items).map fun part =>
        (.text part.1, r.conformAt fields part.1 part.2)) := by
  obtain ⟨_, _, nodup, named⟩ := KeyedList.of?_eq_some isKeyed
  rw [← SampleIndex.namedItems_names named] at nodup
  rw [r.conform_keyed label fields isKeyed, Value.ofFields,
    r.conform_map label fields (distinct_ofFields nodup), List.map_map]
  rfl

/-- Parts under one name are the same if the mappings from all names are. -/
theorem same_parts {f : String → Value → Value} {parts parts' : List (String × Value)}
    (nodup : (parts'.map Prod.fst).Nodup)
    (same : SameUpToOrder (.map (parts.map fun part => (.text part.1, f part.1 part.2)))
      (.map (parts'.map fun part => (.text part.1, f part.1 part.2))))
    {name : String} {part part' : Value} (member : (name, part) ∈ parts)
    (member' : (name, part') ∈ parts') : SameUpToOrder (f name part) (f name part') := by
  obtain ⟨_, listed, values⟩ := same.exists_entry (List.mem_map_of_mem member)
  obtain ⟨⟨other, found⟩, inside, eq⟩ := List.mem_map.1 listed
  simp only [Prod.mk.injEq, Value.text.injEq] at eq
  obtain ⟨rfl, rfl⟩ := eq
  have first := SampleIndex.lookup_of_mem nodup inside
  rw [SampleIndex.lookup_of_mem nodup member', Option.some.injEq] at first
  rwa [first]

/-- Lists that are keyed in one way are the same if they are reshaped to the same, and items of one
name are the same without it if they are reshaped to the same. -/
theorem same_of_keyed (r : Reshaping) {label : Option String} {element : Fields}
    {items items' : List Value} {keyed : KeyedList} {type : String → TypeExpr}
    (isKeyed : KeyedList.of? r.keyFields items = some keyed)
    (isKeyed' : KeyedList.of? r.keyFields items' = some keyed)
    (all : ∀ item ∈ items, Fits admits (.record element) item)
    (all' : ∀ item ∈ items', Fits admits (.record element) item)
    (same : SameUpToOrder
      (r.conform label (.record (keyed.names.map fun name => (name, type name))) (.list items))
      (r.conform label (.record (keyed.names.map fun name => (name, type name))) (.list items')))
    (parts : ∀ name ∈ keyed.names, ∀ part part' : Value,
      (name, part) ∈ SampleIndex.namedItems keyed.field items →
        (name, part') ∈ SampleIndex.namedItems keyed.field items' →
          SameUpToOrder (r.conform (some name) (type name) part)
            (r.conform (some name) (type name) part') → SameUpToOrder part part') :
    SameUpToOrder (.list items) (.list items') := by
  obtain ⟨_, _, nodup, named⟩ := KeyedList.of?_eq_some isKeyed
  obtain ⟨_, _, _, named'⟩ := KeyedList.of?_eq_some isKeyed'
  have names' := SampleIndex.namedItems_names named'
  rw [r.conform_keyed_eq_map label _ isKeyed, r.conform_keyed_eq_map label _ isKeyed'] at same
  refine .list (same_lists named named' fun name item member item' member' hasName hasName' => ?_)
  refine same_items (all item member) (all' item' member') hasName hasName' ?_
  rintro entries entries' rfl rfl
  have part := SampleIndex.namedItems_of_mem member hasName
  have part' := SampleIndex.namedItems_of_mem member' hasName'
  have listed : name ∈ keyed.names := names' ▸ List.mem_map_of_mem (f := Prod.fst) part'
  have field : (name, type name) ∈ keyed.names.map fun name => (name, type name) :=
    List.mem_map.2 ⟨name, listed, rfl⟩
  have unique := (labels_names type keyed.names).symm ▸ nodup
  have became := same_parts (names'.symm ▸ nodup) same part part'
  rw [r.conformAt_of_mem _ unique field, r.conformAt_of_mem _ unique field] at became
  exact parts name listed _ _ part part' became

/-!
### Two samples of one type
-/

/-- The type that is made of a list of records tells how the list was keyed: by the labels of the
record that it became, and by the label that its items have lost. -/
theorem keyed_unique {index index' : SampleIndex} {path : LabelPath} {element : Fields}
    {keyed keyed' : KeyedList}
    (taken : Pass.splitting? index keyFields path element = some keyed)
    (taken' : Pass.splitting? index' keyFields path element = some keyed')
    (types : Pass.splitLists index keyFields path (.list (.record element)) =
      Pass.splitLists index' keyFields path (.list (.record element))) : keyed = keyed' := by
  rw [Pass.splitLists_records index keyFields taken,
    Pass.splitLists_records index' keyFields taken', TypeExpr.record.injEq] at types
  obtain ⟨_, _, hasField, nonempty, _⟩ := Pass.splitting?_eq_some.1 taken
  have names : keyed.names = keyed'.names := by
    have := congrArg labels types
    rwa [labels_names, labels_names] at this
  obtain ⟨name, others, split⟩ := List.exists_cons_of_ne_nil nonempty
  rw [← names, split, List.map_cons, List.map_cons, List.cons.injEq, Prod.mk.injEq,
    Pass.splitLists_record, Pass.splitLists_record, TypeExpr.record.injEq] at types
  have rest : labels (without element keyed.field) = labels (without element keyed'.field) := by
    have := congrArg labels types.1.2
    rwa [labels_map fun field => Pass.splitLists index keyFields _ field.2,
      labels_map fun field => Pass.splitLists index' keyFields _ field.2] at this
  have field : keyed.field = keyed'.field := by
    by_contra different
    have kept : keyed.field ∈ labels (without element keyed'.field) :=
      List.mem_map.2 ⟨_, List.mem_filter.2 ⟨mem_of_field? hasField, by simpa using different⟩, rfl⟩
    rw [← rest] at kept
    obtain ⟨field, listed, same⟩ := List.mem_map.1 kept
    simpa [same] using (List.mem_filter.1 listed).2
  cases keyed
  cases keyed'
  simp_all

section Recovery

open Reshaping SampleIndex

/-- Where two samples fit the type and make the same type of it, they are the same if they are
reshaped to the same. -/
def Recovers (admits : String → Value → Prop) (keyFields : List String) (t : TypeExpr) : Prop :=
  ∀ (index index' : SampleIndex) (path : LabelPath) (label : Option String) (v w : Value),
    t.UniqueLabels → Fits admits t v → Fits admits t w → Reaches keyFields index path v →
      Reaches keyFields index' path w →
        Pass.splitLists index keyFields path t = Pass.splitLists index' keyFields path t →
          SameUpToOrder
            (conform ⟨[], keyFields⟩ label (Pass.splitLists index keyFields path t) v)
            (conform ⟨[], keyFields⟩ label (Pass.splitLists index keyFields path t) w) →
            SameUpToOrder v w

theorem recovers_scalar (name : String) : Recovers admits keyFields (.scalar name) := by
  intro index index' path label v w _ _ _ _ _ _ same
  rwa [Pass.splitLists, conform_scalar, conform_scalar] at same

theorem recovers_optional {inner : TypeExpr} (ih : Recovers admits keyFields inner) :
    Recovers admits keyFields (.optional inner) := by
  intro index index' path label v w unique fits fits' reaches reaches' types same
  rw [Pass.splitLists, conform_optional, conform_optional] at same
  rw [Pass.splitLists, Pass.splitLists, TypeExpr.optional.injEq] at types
  cases fits with
  | null =>
      rw [conform_null] at same
      obtain rfl := conform_eq_null _ rfl (same.null_iff.1 rfl)
      exact .refl _
  | present fits =>
      cases fits' with
      | null =>
          rw [conform_null] at same
          obtain rfl := conform_eq_null _ rfl (same.null_iff.2 rfl)
          exact .refl _
      | present fits' =>
          exact ih index index' path label v w unique fits fits' reaches reaches' types same

/-- A list of anything but records is not reshaped. -/
theorem recovers_list {element : TypeExpr} (other : ∀ fields, element ≠ .record fields) :
    Recovers admits keyFields (.list element) := by
  intro index index' path label v w unique fits fits' _ _ _ same
  rwa [Pass.splitLists_list index keyFields path other, conform_of_fits _ _ _ _ unique fits,
    conform_of_fits _ _ _ _ unique fits'] at same

/-- Lists that are keyed in one way and become the same record are the same. Their items of one name
are, once their records without the key field can be recovered. -/
theorem same_of_splitting {element : Fields} {keyed : KeyedList} {index index' : SampleIndex}
    {path : LabelPath} {label : Option String} {items items' : List Value}
    (ih : Recovers admits keyFields (.record (without element keyed.field)))
    (taken : Pass.splitting? index keyFields path element = some keyed)
    (taken' : Pass.splitting? index' keyFields path element = some keyed)
    (unique : (TypeExpr.list (.record element)).UniqueLabels)
    (all : ∀ item ∈ items, Fits admits (.record element) item)
    (all' : ∀ item ∈ items', Fits admits (.record element) item)
    (reaches : Reaches keyFields index path (.list items))
    (reaches' : Reaches keyFields index' path (.list items'))
    (types : Pass.splitLists index keyFields path (.list (.record element)) =
      Pass.splitLists index' keyFields path (.list (.record element)))
    (same : SameUpToOrder
      (conform ⟨[], keyFields⟩ label
        (Pass.splitLists index keyFields path (.list (.record element))) (.list items))
      (conform ⟨[], keyFields⟩ label
        (Pass.splitLists index keyFields path (.list (.record element))) (.list items'))) :
    SameUpToOrder (.list items) (.list items') := by
  have isKeyed := reaches.of?_of_lookup (Pass.splitting?_eq_some.1 taken).1
  have isKeyed' := reaches'.of?_of_lookup (Pass.splitting?_eq_some.1 taken').1
  rw [Pass.splitLists_records index keyFields taken] at same types
  rw [Pass.splitLists_records index' keyFields taken', TypeExpr.record.injEq] at types
  refine same_of_keyed ⟨[], keyFields⟩ isKeyed isKeyed' all all' same ?_
  intro name listed part part' member member' became
  obtain ⟨entries, item, rfl⟩ := mem_namedItems member
  obtain ⟨entries', item', rfl⟩ := mem_namedItems member'
  have child : (name, .map (entries.without keyed.field)) ∈
      children keyFields (.list items) := by
    simpa only [children, isKeyed] using member
  have child' : (name, .map (entries'.without keyed.field)) ∈
      children keyFields (.list items') := by
    simpa only [children, isKeyed'] using member'
  exact ih index index' (path ++ [name]) (some name) _ _
    (labelwise_uniqueLabels.without keyed.field unique) ((all _ item).without keyed.field)
    ((all' _ item').without keyed.field) (reaches.child (unambiguous_list _ _) child)
    (reaches'.child (unambiguous_list _ _) child')
    (congrArg Prod.snd (List.map_inj_left.1 types name listed)) became

/-- A list of records is keyed in both samples or in neither, and then in one way. -/
theorem recovers_records {element : Fields}
    (ih : ∀ fields, fields ⊆ element → Recovers admits keyFields (.record fields)) :
    Recovers admits keyFields (.list (.record element)) := by
  intro index index' path label v w unique fits fits' reaches reaches' types same
  cases taken : Pass.splitting? index keyFields path element with
  | none =>
      rwa [Pass.splitLists_unsplit index keyFields taken, conform_of_fits _ _ _ _ unique fits,
        conform_of_fits _ _ _ _ unique fits'] at same
  | some keyed =>
      cases taken' : Pass.splitting? index' keyFields path element with
      | none =>
          rw [Pass.splitLists_records index keyFields taken,
            Pass.splitLists_unsplit index' keyFields taken'] at types
          cases types
      | some keyed' =>
          obtain rfl := keyed_unique taken taken' types
          cases fits with
          | list all =>
              cases fits' with
              | list all' =>
                  exact same_of_splitting (ih _ (List.filter_subset_self element)) taken taken'
                    unique all all' reaches reaches' types same

/-- Entries under the label of a field become the same only if they are the same, once its type can
be recovered; under any other label they stay as they are. -/
theorem same_of_conformAt {fields : Fields} {index index' : SampleIndex} {path : LabelPath}
    {entries entries' : Entries} {key v w : Value}
    (ih : ∀ field ∈ fields, Recovers admits keyFields field.2)
    (unique : (TypeExpr.record fields).UniqueLabels)
    (fits : Fits admits (.record fields) (.map entries))
    (fits' : Fits admits (.record fields) (.map entries'))
    (reaches : Reaches keyFields index path (.map entries))
    (reaches' : Reaches keyFields index' path (.map entries'))
    (types : ∀ field ∈ fields, Pass.splitLists index keyFields (path ++ [field.1]) field.2 =
      Pass.splitLists index' keyFields (path ++ [field.1]) field.2)
    (member : (key, v) ∈ entries) (member' : (key, w) ∈ entries')
    (became : SameUpToOrder
      (conformAt ⟨[], keyFields⟩ (fields.map fun field =>
        (field.1, Pass.splitLists index keyFields (path ++ [field.1]) field.2)) key.keyText v)
      (conformAt ⟨[], keyFields⟩ (fields.map fun field =>
        (field.1, Pass.splitLists index keyFields (path ++ [field.1]) field.2)) key.keyText w)) :
    SameUpToOrder v w := by
  have ⟨distinct, present⟩ := fits.record_inv
  have ⟨distinct', present'⟩ := fits'.record_inv
  have unique' := uniqueLabels_record.1 unique
  by_cases named : key.keyText ∈ labels fields
  · obtain ⟨field, listed, text⟩ := List.mem_map.1 named
    have part : (field.1, v) ∈ children keyFields (.map entries) :=
      List.mem_map.2 ⟨(key, v), member, by rw [text]⟩
    have part' : (field.1, w) ∈ children keyFields (.map entries') :=
      List.mem_map.2 ⟨(key, w), member', by rw [text]⟩
    rw [← text, conformAt_map _ _ unique'.1 listed, conformAt_map _ _ unique'.1 listed] at became
    exact ih field listed index index' (path ++ [field.1]) (some field.1) v w
      (unique'.2 field listed) (present field listed (key, v) member text.symm)
      (present' field listed (key, w) member' text.symm)
      (reaches.child (unambiguous_map distinct) part)
      (reaches'.child (unambiguous_map distinct') part') (types field listed) became
  · rw [← labels_map fun field =>
      Pass.splitLists index keyFields (path ++ [field.1]) field.2] at named
    rwa [conformAt_of_notMem _ _ named, conformAt_of_notMem _ _ named] at became

theorem recovers_record {fields : Fields}
    (ih : ∀ field ∈ fields, Recovers admits keyFields field.2) :
    Recovers admits keyFields (.record fields) := by
  intro index index' path label v w unique fits fits' reaches reaches' types same
  rw [Pass.splitLists_record, Pass.splitLists_record, TypeExpr.record.injEq] at types
  have fieldTypes (field : String × TypeExpr) (listed : field ∈ fields) :
      Pass.splitLists index keyFields (path ++ [field.1]) field.2 =
        Pass.splitLists index' keyFields (path ++ [field.1]) field.2 :=
    congrArg Prod.snd (List.map_inj_left.1 types field listed)
  cases fits with
  | record distinct present absent =>
      cases fits' with
      | record distinct' present' absent' =>
          rw [Pass.splitLists_record, conform_map _ _ _ distinct, conform_map _ _ _ distinct']
            at same
          refine same.map_of_map fun (key, v) member (key', w) member' sameKey became => ?_
          obtain rfl : key = key' := sameKey
          exact same_of_conformAt ih unique (.record distinct present absent)
            (.record distinct' present' absent') reaches reaches' fieldTypes member member' became

/-- Every type can be recovered from. The induction is on the type, with the cases of the pass. -/
theorem same_of_conform (t : TypeExpr) : Recovers admits keyFields t := by
  induction t using byLists with
  | scalar name => exact recovers_scalar name
  | optional inner ih => exact recovers_optional ih
  | list element other _ => exact recovers_list other
  | records element ih => exact recovers_records ih
  | record fields ih => exact recovers_record ih

end Recovery

/-- Nothing is lost: two samples of a well-formed type that make the same type of it, and are the
same in the shape of that type, are the same, with the order and the number of the items of all
lists. -/
theorem same_of_conformData (admits : String → Value → Prop) (keyFields : List String)
    {t t' : TypeExpr} {data data' : Value} (unique : t.UniqueLabels) (fits : Fits admits t data)
    (fits' : Fits admits t data')
    (made : (Pass.listToRecord (.ofValue keyFields data) keyFields).apply t = t')
    (made' : (Pass.listToRecord (.ofValue keyFields data') keyFields).apply t = t')
    (same : SameUpToOrder (conformData [] keyFields t' data) (conformData [] keyFields t' data')) :
    SameUpToOrder data data' := by
  subst made
  exact same_of_conform t _ _ [] none data data' unique fits fits'
    (SampleIndex.reaches_ofValue keyFields data) (SampleIndex.reaches_ofValue keyFields data')
    made'.symm same

/-- An optional list whose items have lists of their own, with the entries of an item in two orders.
-/
theorem same_of_conformData_nested :
    let admits : String → Value → Prop := fun _ value => ∃ i, value = .int i
    let port (id : String) : Value := .ofFields [("id", .text id), ("port", .int 80)]
    let ports (ids : List String) : String × Value := ("ports", .list (ids.map port))
    let name (text : String) : String × Value := ("name", .text text)
    let note : String × Value := ("note", .null)
    let data : Value := .ofFields [("pods", .list
      [.ofFields [name "web", ports ["x", "y"], note], .ofFields [name "db", ports ["z"], note]])]
    let data' : Value := .ofFields [("pods", .list
      [.ofFields [note, name "web", ports ["x", "y"]], .ofFields [ports ["z"], note, name "db"]])]
    let portType : TypeExpr := .record [("id", .text), ("port", .scalar "Natural")]
    let podType : TypeExpr := .record
      [("name", .text), ("ports", .list portType), ("note", .optional .text)]
    let t : TypeExpr := .record [("pods", .optional (.list podType))]
    let number : TypeExpr := .record [("port", .scalar "Natural")]
    let item (ids : List String) : TypeExpr :=
      .record [("ports", .record (ids.map (·, number))), ("note", .optional .text)]
    let t' : TypeExpr :=
      .record [("pods", .optional (.record [("web", item ["x", "y"]), ("db", item ["z"])]))]
    t.UniqueLabels ∧ Fits admits t data ∧ Fits admits t data' ∧
      (Pass.listToRecord (.ofValue ["name", "id"] data) ["name", "id"]).apply t = t' ∧
      (Pass.listToRecord (.ofValue ["name", "id"] data') ["name", "id"]).apply t = t' ∧
      SameUpToOrder (conformData [] ["name", "id"] t' data)
        (conformData [] ["name", "id"] t' data') ∧ SameUpToOrder data data' := by
  intro admits port ports name note data data' portType podType t number item t'
  have unique : t.UniqueLabels := by
    simp [t, podType, portType, UniqueLabels, UniqueLabelsFields, TypeExpr.text]
  have portFits : ∀ id, Fits admits portType (port id) := by
    intro id
    have first : Fits admits .text (.text id) := .text id
    have second : Fits admits (.scalar "Natural") (.int 80) :=
      .scalar (by decide) trivial ⟨80, rfl⟩
    exact fits_ofFields (by simp) (by simp_all) (by simp)
  have podFits : ∀ text ids parts, [name text, ports ids, note].Perm parts →
      Fits admits podType (.ofFields parts) := by
    intro text ids parts reordered
    have first : Fits admits .text (.text text) := .text text
    have second : Fits admits (.list portType) (.list (ids.map port)) := by
      refine .list fun item listed => ?_
      obtain ⟨id, _, rfl⟩ := List.mem_map.1 listed
      exact portFits id
    have third : Fits admits (.optional .text) .null := .null
    have ordered : Fits admits podType (.ofFields [name text, ports ids, note]) :=
      fits_ofFields (by simp [name, ports, note]) (by simp_all [name, ports, note])
        (by simp [name, ports, note])
    exact ordered.perm (reordered.map _)
  have podsFit : ∀ pods : List Value, (∀ pod ∈ pods, Fits admits podType pod) →
      Fits admits t (.ofFields [("pods", .list pods)]) := by
    intro pods all
    have first : Fits admits (.optional (.list podType)) (.list pods) := .present (.list all)
    exact fits_ofFields (by simp) (by simpa using first) (by simp)
  have fits : Fits admits t data := podsFit _ (by
    simpa using ⟨podFits "web" ["x", "y"] _ (.refl _), podFits "db" ["z"] _ (.refl _)⟩)
  have fits' : Fits admits t data' := podsFit _ (by
    have web := podFits "web" ["x", "y"] _
      (@List.perm_append_comm _ [name "web", ports ["x", "y"]] [note])
    have db := podFits "db" ["z"] _ (@List.perm_append_comm _ [name "db"] [ports ["z"], note])
    simpa using ⟨web, db⟩)
  have made : (Pass.listToRecord (.ofValue ["name", "id"] data) ["name", "id"]).apply t = t' := by
    decide
  have made' : (Pass.listToRecord (.ofValue ["name", "id"] data') ["name", "id"]).apply t = t' := by
    decide
  have same : SameUpToOrder (conformData [] ["name", "id"] t' data)
      (conformData [] ["name", "id"] t' data') := by
    let parts (ids : List String) : String × Value :=
      ("ports", .ofFields (ids.map fun id => (id, .ofFields [("port", .int 80)])))
    let shaped (web : List (String × Value)) : Value :=
      .ofFields [("pods", .ofFields
        [("web", .ofFields web), ("db", .ofFields [parts ["z"], note])])]
    have first : conformData [] ["name", "id"] t' data = shaped [parts ["x", "y"], note] := by rfl
    have second : conformData [] ["name", "id"] t' data' = shaped [note, parts ["x", "y"]] := by rfl
    have web : SameUpToOrder (.ofFields [parts ["x", "y"], note])
        (.ofFields [note, parts ["x", "y"]]) :=
      .map (List.forall₂_same.2 fun entry _ => sameEntry_refl entry) (.swap _ _ _)
    rw [first, second]
    exact .map (.cons (.entry _ (.map (.cons (.entry _ web) (.cons (sameEntry_refl _) .nil))
      (.refl _))) .nil) (.refl _)
  exact ⟨unique, fits, fits', made, made', same,
    same_of_conformData admits ["name", "id"] unique fits fits' made made' same⟩

end TypedManifests
