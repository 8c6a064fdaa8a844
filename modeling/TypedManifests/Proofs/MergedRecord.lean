/-
Module: TypedManifests.Proofs.MergedRecord
Purpose: What the merged record holds. It has one entry for each place, that is a component in title
  case, a kind and a name; of several resources for one place the last one in the order of the
  components stays. The invariant relates the record to the list of resources that were put into it.
Main exports: Resource.place, entryAt?, entryCount, Holds, holds_record, record_holds_last
-/
import Mathlib.Data.Finset.Card
import TypedManifests.Manifest.ResourceSet

namespace TypedManifests

/-!
### Mappings with texts as keys
-/

namespace Entries

/-- The sum of a weight over the values. -/
def total (weight : Value → Nat) : Entries → Nat
  | [] => 0
  | entry :: rest => weight entry.2 + total weight rest

/-- Setting a key adds the weight of the new value and takes away that of the old one. -/
theorem total_set (weight : Value → Nat) (key : String) (value : Value) (entries : Entries) :
    (entries.set key value).total weight + ((entries.get? key).map weight).getD 0 =
      entries.total weight + weight value := by
  induction entries with
  | nil => simp [set, total, get?]
  | cons entry rest ih =>
      rw [set, get?_cons]
      by_cases here : entry.1.isTextOf key = true
      · simp only [if_pos here, total, Option.map_some, Option.getD_some]
        omega
      · simp only [if_neg here, total]
        omega

theorem length_set (key : String) (value : Value) (entries : Entries) :
    (entries.set key value).length =
      entries.length + if (entries.get? key).isSome then 0 else 1 := by
  have ones : ∀ entries : Entries, entries.total (fun _ => 1) = entries.length := by
    intro entries
    induction entries with
    | nil => rfl
    | cons entry rest ih => rw [total, ih, List.length_cons, Nat.add_comm]
  have change := total_set (fun _ => 1) key value entries
  rw [ones, ones] at change
  cases found : entries.get? key <;> simp [found] at change ⊢ <;> omega

/-- The mapping under a key, which is empty if there is none. -/
def mapAt (entries : Entries) (key : String) : Entries :=
  ((entries.get? key).bind Value.entries?).getD []

end Entries

namespace ResourceSet

open Entries

theorem updateMap_eq (key : String) (f : Entries → Entries) (entries : Entries) :
    updateMap key f entries = entries.set key (.map (f (entries.mapAt key))) := by
  rw [updateMap, mapAt]
  cases entries.get? key with
  | none => rfl
  | some value => cases value <;> rfl

theorem mapAt_updateMap (key label : String) (f : Entries → Entries) (entries : Entries) :
    (updateMap key f entries).mapAt label =
      if key = label then f (entries.mapAt label) else entries.mapAt label := by
  rw [updateMap_eq, mapAt, get?_set]
  by_cases same : key = label
  · subst same
    simp [Value.entries?]
  · simp [same, mapAt]

/-- What an update adds to the number of things in a mapping of mappings is what it adds to the
mapping that it updates. -/
theorem total_updateMap {weight : Entries → Nat} (empty : weight [] = 0) (key : String)
    (f : Entries → Entries) (entries : Entries) :
    let outer : Value → Nat := fun v => weight (v.entries?.getD [])
    (updateMap key f entries).total outer + weight (entries.mapAt key) =
      entries.total outer + weight (f (entries.mapAt key)) := by
  intro outer
  have change := total_set outer key (.map (f (entries.mapAt key))) entries
  have old : ((entries.get? key).map outer).getD 0 = weight (entries.mapAt key) := by
    rw [mapAt]
    cases found : entries.get? key with
    | none => simp [empty]
    | some value => simp [outer]
  rw [updateMap_eq, ← old]
  simpa [outer, Value.entries?] using change

end ResourceSet

/-!
### Places

A resource has its place in the record under its component in title case, its kind and its name.
-/

/-- Where in the record a resource is put. -/
structure RecordPlace where
  component : String
  kind : String
  name : String
deriving DecidableEq, Repr

def Resource.place (r : Resource) : RecordPlace :=
  ⟨Text.titleCase r.component, r.kind, r.name⟩

/-- What a record holds at a place. -/
def entryAt? (record : Entries) (p : RecordPlace) : Option Value :=
  ((record.get? p.component).bind Value.entries?).bind fun kinds =>
    ((Entries.get? kinds p.kind).bind Value.entries?).bind fun names =>
      Entries.get? names p.name

/-- The number of entries under a kind and a name. -/
def nameCount (kinds : Entries) : Nat :=
  kinds.total fun names => (names.entries?.getD []).length

/-- The number of entries under a component, a kind and a name. -/
def entryCount (record : Entries) : Nat :=
  record.total fun kinds => nameCount (kinds.entries?.getD [])

/-- The last of the resources that are put at a place. -/
def lastAt? (rs : List Resource) (p : RecordPlace) : Option Resource :=
  rs.reverse.find? fun r => r.place = p

theorem bind_eq_getD {α : Type} {f : Entries → Option α} (empty : f [] = none) :
    ∀ found : Option Entries, found.bind f = f (found.getD [])
  | none => empty.symm
  | some _ => rfl

theorem entryAt?_eq (record : Entries) (p : RecordPlace) :
    entryAt? record p = ((record.mapAt p.component).mapAt p.kind).get? p.name := by
  rw [entryAt?, bind_eq_getD rfl, bind_eq_getD rfl, Entries.mapAt, Entries.mapAt]

theorem lastAt?_append (rs later : List Resource) (p : RecordPlace) :
    lastAt? (rs ++ later) p = (lastAt? later p).or (lastAt? rs p) := by
  rw [lastAt?, List.reverse_append, List.find?_append, lastAt?, lastAt?]

theorem lastAt?_isSome {rs : List Resource} {p : RecordPlace} :
    (lastAt? rs p).isSome = true ↔ p ∈ rs.map Resource.place := by
  simp [lastAt?, List.find?_isSome]

/-!
### Putting resources into the record

The invariant says of a record and the resources that were put into it that each place holds the
last resource for it, and that there are no other entries.
-/

namespace ResourceSet

structure Holds (record : Entries) (rs : List Resource) : Prop where
  entry : ∀ p, entryAt? record p = (lastAt? rs p).map fun r => .map r.contents
  count : entryCount record = (rs.map Resource.place).toFinset.card

theorem holds_nil : Holds [] [] where
  entry := fun _ => rfl
  count := rfl

theorem nameCount_updateMap (kind : String) (f : Entries → Entries) (kinds : Entries) :
    nameCount (updateMap kind f kinds) + (kinds.mapAt kind).length =
      nameCount kinds + (f (kinds.mapAt kind)).length :=
  total_updateMap rfl kind f kinds

theorem entryCount_updateMap (component : String) (f : Entries → Entries) (record : Entries) :
    entryCount (updateMap component f record) + nameCount (record.mapAt component) =
      entryCount record + nameCount (f (record.mapAt component)) :=
  total_updateMap rfl component f record

/-- A component without resources adds nothing. -/
theorem Holds.component {record : Entries} {rs : List Resource} (holds : Holds record rs)
    (title : String) : Holds (updateMap title id record) rs where
  entry := fun p => by
    rw [← holds.entry p, entryAt?_eq, entryAt?_eq, mapAt_updateMap, id, ite_self]
  count := by
    have same := entryCount_updateMap title id record
    rw [id, Nat.add_right_cancel_iff] at same
    rw [same, holds.count]

theorem entryAt?_insertResource (record : Entries) (r : Resource) (p : RecordPlace) :
    entryAt? (insertResource (Text.titleCase r.component) record r) p =
      if r.place = p then some (.map r.contents) else entryAt? record p := by
  obtain ⟨component, kind, name⟩ := p
  rw [entryAt?_eq, entryAt?_eq, insertResource, mapAt_updateMap]
  by_cases sameComponent : Text.titleCase r.component = component
  · rw [if_pos sameComponent, mapAt_updateMap]
    by_cases sameKind : r.kind = kind
    · rw [if_pos sameKind, Entries.get?_set]
      simp [Resource.place, sameComponent, sameKind]
    · simp [Resource.place, sameKind]
  · simp [Resource.place, sameComponent]

/-- A resource for a place that holds one already takes its place, another one adds an entry. -/
theorem entryCount_insertResource (record : Entries) (r : Resource) :
    entryCount (insertResource (Text.titleCase r.component) record r) =
      entryCount record + if (entryAt? record r.place).isSome then 0 else 1 := by
  have inComponent := entryCount_updateMap (Text.titleCase r.component)
    (updateMap r.kind (Entries.set r.name (.map r.contents))) record
  have inKind := nameCount_updateMap r.kind (Entries.set r.name (.map r.contents))
    (record.mapAt (Text.titleCase r.component))
  have here : entryAt? record r.place =
      ((record.mapAt (Text.titleCase r.component)).mapAt r.kind).get? r.name :=
    entryAt?_eq record r.place
  rw [Entries.length_set] at inKind
  rw [here, insertResource]
  omega

/-- One more resource. -/
theorem Holds.resource {record : Entries} {rs : List Resource} (holds : Holds record rs)
    (r : Resource) :
    Holds (insertResource (Text.titleCase r.component) record r) (rs ++ [r]) where
  entry := fun p => by
    rw [entryAt?_insertResource, lastAt?_append, holds.entry p]
    by_cases here : r.place = p <;> simp [lastAt?, here]
  count := by
    have known : (entryAt? record r.place).isSome = true ↔ r.place ∈ rs.map Resource.place := by
      rw [holds.entry, Option.isSome_map, lastAt?_isSome]
    have added : ((rs ++ [r]).map Resource.place).toFinset =
        insert r.place (rs.map Resource.place).toFinset := by
      ext p
      simp
    rw [entryCount_insertResource, holds.count, added, Finset.card_insert_eq_ite]
    simp only [known, List.mem_toFinset]
    split <;> rfl

/-- The resources of one component. -/
theorem Holds.resources {component : String} : ∀ {group : List Resource} {record : Entries}
    {rs : List Resource}, (∀ r ∈ group, r.component = component) → Holds record rs →
      Holds (group.foldl (insertResource (Text.titleCase component)) record) (rs ++ group)
  | [], _, rs, _, holds => by simpa using holds
  | r :: rest, record, rs, together, holds => by
      have first := holds.resource r
      rw [together r List.mem_cons_self] at first
      have others := first.resources fun other member =>
        together other (List.mem_cons_of_mem _ member)
      rwa [List.append_assoc] at others

/-- Each resource is in the group of its component. -/
def Grouped (groups : List (String × List Resource)) : Prop :=
  ∀ group ∈ groups, ∀ r ∈ group.2, r.component = group.1

theorem Holds.groups : ∀ {groups : List (String × List Resource)} {record : Entries}
    {rs : List Resource}, Grouped groups → Holds record rs →
      Holds
        (groups.foldl (fun record (component, group) => insertGroup record component group) record)
        (rs ++ groups.flatMap Prod.snd)
  | [], _, _, _, holds => by simpa using holds
  | (component, group) :: rest, record, rs, grouped, holds => by
      have first := (holds.component (Text.titleCase component)).resources
        (grouped (component, group) List.mem_cons_self)
      have others := first.groups fun other member => grouped other (List.mem_cons_of_mem _ member)
      rwa [List.append_assoc] at others

theorem grouped_addTo (resource : Resource) : ∀ {groups : List (String × List Resource)},
    Grouped groups → Grouped (addTo resource groups)
  | [], _ => by simp [addTo, Grouped]
  | (component, group) :: rest, grouped => by
      have first := grouped (component, group) List.mem_cons_self
      have others : Grouped rest := fun other member =>
        grouped other (List.mem_cons_of_mem _ member)
      rw [addTo]
      split
      · next same =>
        intro other member r inside
        rcases List.mem_cons.1 member with rfl | member
        · rcases List.mem_append.1 inside with inside | inside
          · exact first r inside
          · rw [List.mem_singleton.1 inside, same]
        · exact others other member r inside
      · intro other member r inside
        rcases List.mem_cons.1 member with rfl | member
        · exact first r inside
        · exact grouped_addTo resource others other member r inside

theorem grouped_foldl_add : ∀ (added : List Resource) {set : ResourceSet},
    Grouped set.components → Grouped (added.foldl add set).components
  | [], _, grouped => grouped
  | resource :: rest, _, grouped => grouped_foldl_add rest (grouped_addTo resource grouped)

/-- The resources in the order in which they are put into the record: by component, and within a
component as they were added. -/
def mergeOrder (set : ResourceSet) : List Resource := set.sortedComponents.flatMap Prod.snd

theorem perm_mergeOrder (set : ResourceSet) : set.mergeOrder.Perm set.resources :=
  (List.mergeSort_perm set.components _).flatMap_right Prod.snd

/-- The record holds the resources of the set. -/
theorem holds_record {set : ResourceSet} (grouped : Grouped set.components) :
    Holds set.record set.mergeOrder := by
  have sorted : Grouped set.sortedComponents := fun group member =>
    grouped group ((List.mergeSort_perm set.components _).mem_iff.1 member)
  exact holds_nil.groups sorted

/-- At the place of a resource the record holds the last one for this place. -/
theorem Holds.exists_last {set : ResourceSet} (holds : Holds set.record set.mergeOrder)
    {r : Resource} (member : r ∈ set.resources) :
    ∃ last ∈ set.resources, last.place = r.place ∧
      lastAt? set.mergeOrder r.place = some last ∧
        entryAt? set.record r.place = some (.map last.contents) := by
  have perm := set.perm_mergeOrder
  have listed : r.place ∈ set.mergeOrder.map Resource.place :=
    List.mem_map_of_mem (perm.mem_iff.2 member)
  obtain ⟨last, found⟩ := Option.isSome_iff_exists.1 (lastAt?_isSome.2 listed)
  have inOrder : last ∈ set.mergeOrder := List.mem_reverse.1 (List.mem_of_find?_eq_some found)
  refine ⟨last, perm.mem_iff.1 inOrder, by simpa using List.find?_some found, found, ?_⟩
  rw [holds.entry, found]
  rfl

theorem Holds.entryCount_eq {set : ResourceSet} (holds : Holds set.record set.mergeOrder) :
    entryCount set.record = (set.resources.map Resource.place).toFinset.card := by
  rw [holds.count, List.toFinset_eq_of_perm _ _ (set.perm_mergeOrder.map Resource.place)]

/-- There are as many different places as resources if and only if no place comes twice. -/
theorem card_places_eq_length {rs : List Resource} :
    (rs.map Resource.place).toFinset.card = rs.length ↔ (rs.map Resource.place).Nodup := by
  rw [List.card_toFinset, ← List.length_map Resource.place]
  constructor
  · intro all
    exact List.dedup_eq_self.1 ((List.dedup_sublist _).eq_of_length all)
  · exact fun nodup => by rw [nodup.dedup]

/-- However resources were added, the record holds at the place of each one the last resource for
this place in the order of the components, and its entries are as many as there are different
places. It has one for each resource if and only if no place is shared, and then each resource is at
its place. -/
theorem record_holds_last (root : String) (added : List Resource) :
    let set := added.foldl add (.empty root)
    let places := set.resources.map Resource.place
    (∀ r ∈ set.resources, ∃ last ∈ set.resources, lastAt? set.mergeOrder r.place = some last ∧
      entryAt? set.record r.place = some (.map last.contents)) ∧
    entryCount set.record = places.toFinset.card ∧
    (entryCount set.record = set.resources.length ↔ places.Nodup) ∧
    (places.Nodup → ∀ r ∈ set.resources, entryAt? set.record r.place = some (.map r.contents)) := by
  intro set places
  have holds : Holds set.record set.mergeOrder :=
    holds_record (grouped_foldl_add added fun _ member => by cases member)
  refine ⟨fun r member => ?_, holds.entryCount_eq, ?_, fun nodup r member => ?_⟩
  · obtain ⟨last, listed, _, found⟩ := holds.exists_last member
    exact ⟨last, listed, found⟩
  · rw [holds.entryCount_eq]
    exact card_places_eq_length
  · obtain ⟨last, listed, same, _, entry⟩ := holds.exists_last member
    rw [entry, List.inj_on_of_nodup_map nodup listed member same]

/-- Three resources, two of them for one place, and two resources for different places. -/
theorem record_holds_last_shared :
    let resource (component name : String) (replicas : Int) : Resource :=
      ⟨"/m/a.yaml", component, "Deployment", "apps/v1", name, "", [],
        [(.text "replicas", .int replicas)]⟩
    let shared := [resource "web" "app" 1, resource "db" "app" 2, resource "web" "app" 3]
    let apart := [resource "web" "app" 1, resource "web" "api" 2]
    let set := shared.foldl add (.empty "/m")
    let set' := apart.foldl add (.empty "/m")
    (resource "web" "app" 1 ∈ set.resources ∧
      ∃ last ∈ set.resources, lastAt? set.mergeOrder (resource "web" "app" 1).place = some last ∧
        entryAt? set.record (resource "web" "app" 1).place = some (.map last.contents)) ∧
    (set'.resources.map Resource.place).Nodup ∧ resource "web" "api" 2 ∈ set'.resources ∧
      entryAt? set'.record (resource "web" "api" 2).place =
        some (.map (resource "web" "api" 2).contents) := by
  intro resource shared apart set set'
  have listed : resource "web" "app" 1 ∈ set.resources := by
    simp [set, shared, resource, add, addTo, empty, resources]
  have listed' : resource "web" "api" 2 ∈ set'.resources := by
    simp [set', apart, resource, add, addTo, empty, resources]
  have nodup : (set'.resources.map Resource.place).Nodup := by
    simp [set', apart, resource, add, addTo, empty, resources, Resource.place]
  exact ⟨⟨listed, (record_holds_last "/m" shared).1 _ listed⟩, nodup, listed',
    (record_holds_last "/m" apart).2.2.2 nodup _ listed'⟩

/-- Of two resources of one component, kind and name only the later one is in the record. -/
theorem record_loses_shared :
    ∃ (root : String) (added : List Resource),
      let set := added.foldl add (.empty root)
      (∃ r ∈ set.resources, entryAt? set.record r.place ≠ some (.map r.contents)) ∧
        entryCount set.record ≠ set.resources.length := by
  let resource (replicas : Int) : Resource :=
    ⟨"/m/a.yaml", "web", "Deployment", "apps/v1", "app", "", [],
      [(.text "replicas", .int replicas)]⟩
  refine ⟨"/m", [resource 1, resource 2], ?_⟩
  intro set
  have holds : Holds set.record set.mergeOrder :=
    holds_record (grouped_foldl_add _ fun _ member => by cases member)
  have order : set.mergeOrder = [resource 1, resource 2] := by
    simp [mergeOrder, sortedComponents, set, resource, add, addTo, empty]
  have later : entryAt? set.record (resource 1).place = some (.map (resource 2).contents) := by
    rw [holds.entry, order]
    simp [lastAt?, resource, Resource.place]
  refine ⟨⟨resource 1, by simp [set, resource, add, addTo, empty, resources], ?_⟩, ?_⟩
  · rw [later]
    simp [resource]
  · rw [holds.count, order]
    simp [set, resource, add, addTo, empty, resources, Resource.place]

end ResourceSet

end TypedManifests
