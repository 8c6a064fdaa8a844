/-
Module: TypedManifests.Proofs.SchemaType
Purpose: What the schema type says of the merged record. It is written from the resources sorted by
  component, kind and name, so the order in which they were added does not show; and the labels of
  its parts are read back as the places at which the record holds an entry.
Main exports: WrittenSchema, readLabel?_printLabel, Resource.schemaKey, ResourceSet.schemaOrder,
  schemaType_eq, pairwise_schemaOrder, map_schemaOrder_of_perm, schemaType_covers_record
-/
import Mathlib.Data.Prod.Lex
import TypedManifests.Proofs.MergedRecord
import TypedManifests.Proofs.PrintedTypes
import TypedManifests.Proofs.Sorting

namespace TypedManifests

open TypedManifests.TypeExpr

/-!
### The labels of a schema

A schema of one resource is three labels, one inside the other, and the type behind them.
-/

/-- The schema of one resource as it is written. -/
structure WrittenSchema where
  component : String
  kind : String
  name : String
  type : String
deriving DecidableEq, Repr

namespace WrittenSchema

def text (w : WrittenSchema) : String :=
  "\x7b " ++ w.component ++ " : \x7b " ++ w.kind ++ " : \x7b " ++ w.name ++ " : " ++ w.type ++
    " \x7d \x7d \x7d"

/-- The label that a text is read as, if it is one. -/
def readLabel? (text : String) : Option String :=
  match lex text with
  | .ok ⟨[⟨.name, label, _⟩], _⟩ => some label
  | _ => none

/-- The place in the record that the labels are read as. -/
def place? (w : WrittenSchema) : Option RecordPlace := do
  return ⟨← readLabel? w.component, ← readLabel? w.kind, ← readLabel? w.name⟩

/-- A label is read as itself if it fits between two backticks. -/
theorem readLabel?_printLabel {label : String} (quotable : Quotable label) :
    readLabel? (printLabel label) = some label := by
  obtain ⟨lexemes, ⟨w, one, isName, isLabel, _⟩, spaced⟩ := writtenAs_printLabel quotable
  have whole := spaced [] [] (.finish (by simp)) detached_nil
  rw [List.append_nil, List.append_nil] at whole
  obtain ⟨⟨tokens, finish⟩, lexed, written⟩ := whole.lex_written
  rw [one] at written
  obtain ⟨⟨kind, text, position⟩, rfl, rfl⟩ := List.map_eq_singleton_iff.1 written
  obtain rfl : kind = .name := isName
  obtain rfl : text = label := isLabel
  simp only [readLabel?, lexed]

end WrittenSchema

namespace Resource

def writtenSchema (r : Resource) : WrittenSchema :=
  ⟨printLabel (Text.titleCase r.component), printLabel r.kind, printLabel r.name, r.schemaType⟩

/-- The title of its component, its kind and its name may be labels. -/
def Labelled (r : Resource) : Prop :=
  Quotable (Text.titleCase r.component) ∧ Quotable r.kind ∧ Quotable r.name

theorem place?_writtenSchema {r : Resource} (labelled : r.Labelled) :
    r.writtenSchema.place? = some r.place := by
  simp [writtenSchema, WrittenSchema.place?, WrittenSchema.readLabel?_printLabel, labelled.1,
    labelled.2.1, labelled.2.2, place]

/-- The schemas of labelled resources are read as their places and their types. -/
theorem map_writtenSchema {resources : List Resource} (labelled : ∀ r ∈ resources, r.Labelled) :
    ((resources.map writtenSchema).map fun w => (w.place?, w.type)) =
      resources.map fun r => (some r.place, r.schemaType) := by
  rw [List.map_map]
  refine List.map_congr_left fun r member => ?_
  rw [Function.comp_apply, place?_writtenSchema (labelled r member)]
  rfl

/-- By what the schemas of resources are sorted. -/
def schemaKey (r : Resource) : String ×ₗ String ×ₗ String :=
  toLex (r.component, toLex (r.kind, r.name))

end Resource

/-!
### Sorted resources
-/

namespace ResourceSet

variable {component : String} {group : List Resource} {groups : List (String × List Resource)}

theorem pairwise_sortedGroup (together : ∀ r ∈ group, r.component = component) :
    (sortedGroup group).Pairwise fun r s => r.schemaKey ≤ s.schemaKey := by
  let key (r : Resource) : String ×ₗ String := toLex (r.kind, r.name)
  let le (r s : Resource) : Bool := r.kind < s.kind || (r.kind = s.kind && r.name ≤ s.name)
  have le_iff : ∀ r s, le r s = true ↔ key r ≤ key s := by
    intro r s
    simp [le, key, Prod.Lex.toLex_le_toLex]
  have sorted : (sortedGroup group).Pairwise fun r s => le r s = true := by
    refine List.pairwise_mergeSort ?_ ?_ group
    · intro r s t first second
      exact (le_iff r t).2 (((le_iff r s).1 first).trans ((le_iff s t).1 second))
    · intro r s
      rw [Bool.or_eq_true]
      exact (le_total (key r) (key s)).imp (le_iff r s).2 (le_iff s r).2
  refine sorted.imp_of_mem fun {r s} member member' before => ?_
  rw [Resource.schemaKey, Resource.schemaKey, Prod.Lex.toLex_le_toLex]
  refine Or.inr ⟨?_, (le_iff r s).1 before⟩
  exact (together r (List.mem_mergeSort.1 member)).trans
    (together s (List.mem_mergeSort.1 member')).symm

/-- The resources in the order of their schemas. -/
def schemaOrder (set : ResourceSet) : List Resource :=
  set.sortedComponents.flatMap fun group => sortedGroup group.2

theorem perm_schemaOrder (set : ResourceSet) : set.schemaOrder.Perm set.resources := by
  have inGroups : set.schemaOrder.Perm set.mergeOrder :=
    List.Perm.flatMap_left _ fun group _ => List.mergeSort_perm group.2 _
  exact inGroups.trans set.perm_mergeOrder

theorem grouped_sortedComponents {set : ResourceSet} (grouped : Grouped set.components) :
    Grouped set.sortedComponents := fun group member =>
  grouped group ((List.mergeSort_perm set.components _).mem_iff.1 member)

/-- The type is written from the schemas of the resources in this order. -/
theorem schemaType_eq {set : ResourceSet} (grouped : Grouped set.components) :
    set.schemaType = String.intercalate " ⩓ "
      ((set.schemaOrder.map Resource.writtenSchema).map WrittenSchema.text) := by
  rw [schemaType, schemaOrder, List.map_map, List.map_flatMap]
  refine congrArg _ (List.flatMap_congr fun group member => List.map_congr_left fun r inside => ?_)
  obtain ⟨component, resources⟩ := group
  obtain rfl : r.component = component :=
    grouped_sortedComponents grouped _ member r (List.mem_mergeSort.1 inside)
  rfl

/-- Where every component has one group, the resources are sorted by component, kind and name. -/
theorem pairwise_schemaOrder {set : ResourceSet} (grouped : Grouped set.components)
    (nodup : (set.components.map Prod.fst).Nodup) :
    set.schemaOrder.Pairwise fun r s => r.schemaKey ≤ s.schemaKey := by
  have together := grouped_sortedComponents grouped
  have sorted : set.sortedComponents.Pairwise fun a b => a.1 < b.1 := pairwise_mergeSort_fst nodup
  rw [schemaOrder, List.pairwise_flatMap]
  refine ⟨fun group member => pairwise_sortedGroup (together group member), ?_⟩
  refine sorted.imp_of_mem fun {a b} member member' before r inside s inside' => ?_
  rw [Resource.schemaKey, Resource.schemaKey, Prod.Lex.toLex_le_toLex,
    together a member r (List.mem_mergeSort.1 inside),
    together b member' s (List.mem_mergeSort.1 inside')]
  exact Or.inl before

/-!
### The resources that were added
-/

theorem map_fst_addTo (r : Resource) : ∀ groups : List (String × List Resource),
    (addTo r groups).map Prod.fst =
      if r.component ∈ groups.map Prod.fst then groups.map Prod.fst
      else groups.map Prod.fst ++ [r.component]
  | [] => by simp [addTo]
  | (component, group) :: rest => by
      rw [addTo]
      by_cases here : component = r.component
      · simp [here]
      · rw [if_neg here, List.map_cons, map_fst_addTo r rest]
        by_cases later : r.component ∈ rest.map Prod.fst <;> simp [Ne.symm here, later]

theorem nodup_foldl_add : ∀ (added : List Resource) {set : ResourceSet},
    (set.components.map Prod.fst).Nodup →
      ((added.foldl add set).components.map Prod.fst).Nodup
  | [], _, nodup => nodup
  | r :: rest, set, nodup => by
      refine nodup_foldl_add rest ?_
      rw [add, map_fst_addTo]
      split
      · exact nodup
      · next missing =>
        exact nodup.append (List.nodup_singleton _) (List.disjoint_singleton.2 missing)

theorem flatMap_addTo (r : Resource) : ∀ groups : List (String × List Resource),
    ((addTo r groups).flatMap Prod.snd).Perm (groups.flatMap Prod.snd ++ [r])
  | [] => by simp [addTo]
  | (component, group) :: rest => by
      rw [addTo]
      split
      · rw [List.flatMap_cons, List.flatMap_cons, List.append_assoc, List.append_assoc]
        exact List.perm_append_comm.append_left _
      · rw [List.flatMap_cons, List.flatMap_cons, List.append_assoc]
        exact (flatMap_addTo r rest).append_left _

/-- A set holds the resources that it held before and those that were added. -/
theorem resources_foldl_add : ∀ (added : List Resource) (set : ResourceSet),
    (added.foldl add set).resources.Perm (set.resources ++ added)
  | [], set => by simp
  | r :: rest, set => by
      have first : (set.add r).resources.Perm (set.resources ++ [r]) :=
        flatMap_addTo r set.components
      have others := (resources_foldl_add rest (set.add r)).trans (first.append_right rest)
      rwa [List.append_assoc] at others

theorem resources_added (root : String) (added : List Resource) :
    (added.foldl add (.empty root)).resources.Perm added :=
  resources_foldl_add added (.empty root)

theorem grouped_added (root : String) (added : List Resource) :
    Grouped (added.foldl add (.empty root)).components :=
  grouped_foldl_add added fun _ member => by cases member

/-- The schemas of resources do not depend on the order in which these were added, if the type of a
resource is told by its kind. -/
theorem map_schemaOrder_of_perm {root root' : String} {added added' : List Resource}
    (perm : added'.Perm added)
    (byKind : ∀ r ∈ added, ∀ r' ∈ added, r.kind = r'.kind → r.schemaType = r'.schemaType) :
    (added'.foldl add (.empty root')).schemaOrder.map Resource.writtenSchema =
      (added.foldl add (.empty root)).schemaOrder.map Resource.writtenSchema := by
  have order (root : String) (added : List Resource) :
      (added.foldl add (.empty root)).schemaOrder.Perm added :=
    (perm_schemaOrder _).trans (resources_added root added)
  have sorted (root : String) (added : List Resource) :
      (added.foldl add (.empty root)).schemaOrder.Pairwise fun r s => r.schemaKey ≤ s.schemaKey :=
    pairwise_schemaOrder (grouped_added root added) (nodup_foldl_add added List.nodup_nil)
  have listed := (order root' added').trans perm
  refine map_eq_of_sorted Resource.schemaKey _ (listed.trans (order root added).symm)
    (sorted root' added') (sorted root added) fun r member s member' same => ?_
  simp only [Resource.schemaKey, toLex_inj, Prod.mk.injEq] at same
  have type := byKind r (listed.mem_iff.1 member) s (listed.mem_iff.1 member') same.2.1
  simp only [Resource.writtenSchema, same, type]

theorem card_toFinset_map_some {α : Type} [DecidableEq α] (l : List α) :
    (l.map some).toFinset.card = l.toFinset.card := by
  rw [← Finset.card_image_of_injective l.toFinset (Option.some_injective α)]
  congr 1
  ext a
  simp

/-- Where the type of a resource is told by its kind, the schema type is the same in whatever order
the resources were added. If titles, kinds and names may be labels, it is put together from one
schema for each resource, whose labels are read as the resource's place, with its type behind them;
and the places that are typed in this way are those at which the record holds an entry. -/
theorem schemaType_covers_record (root : String) {added : List Resource}
    (byKind : ∀ r ∈ added, ∀ r' ∈ added, r.kind = r'.kind → r.schemaType = r'.schemaType) :
    let set := added.foldl add (.empty root)
    (∀ (root' : String) (added' : List Resource), added'.Perm added →
      (added'.foldl add (.empty root')).schemaType = set.schemaType) ∧
    ((∀ r ∈ added, r.Labelled) →
      ∃ schemas : List WrittenSchema,
        set.schemaType = String.intercalate " ⩓ " (schemas.map WrittenSchema.text) ∧
        (schemas.map fun w => (w.place?, w.type)).Perm
          (added.map fun r => (some r.place, r.schemaType)) ∧
        (∀ p, some p ∈ schemas.map WrittenSchema.place? ↔ (entryAt? set.record p).isSome) ∧
        entryCount set.record = (schemas.map WrittenSchema.place?).toFinset.card) := by
  intro set
  have grouped := grouped_added root added
  refine ⟨fun root' added' perm => ?_, fun labelled => ?_⟩
  · rw [schemaType_eq grouped, schemaType_eq (grouped_added root' added'),
      map_schemaOrder_of_perm perm byKind]
  · have order : set.schemaOrder.Perm added :=
      (perm_schemaOrder set).trans (resources_added root added)
    have holds : Holds set.record set.mergeOrder := holds_record grouped
    have merged : set.mergeOrder.Perm added :=
      set.perm_mergeOrder.trans (resources_added root added)
    have typed := Resource.map_writtenSchema fun r member => labelled r (order.mem_iff.1 member)
    have places : (set.schemaOrder.map Resource.writtenSchema).map WrittenSchema.place? =
        (set.schemaOrder.map Resource.place).map some := by
      simpa using congrArg (List.map Prod.fst) typed
    refine ⟨set.schemaOrder.map Resource.writtenSchema, schemaType_eq grouped, ?_, fun p => ?_, ?_⟩
    · rw [typed]
      exact order.map _
    · rw [places, holds.entry, Option.isSome_map, lastAt?_isSome, (merged.map _).mem_iff,
        ← (order.map _).mem_iff]
      simp
    · rw [places, card_toFinset_map_some, holds.count,
        List.toFinset_eq_of_perm _ _ ((merged.trans order.symm).map _)]

/-- Two components with one title, and two resources that nothing but their contents tells apart, in
two orders. -/
theorem schemaType_covers_record_shared :
    let resource (component kind name : String) (replicas : Int) : Resource :=
      ⟨"/m/a.yaml", component, kind, "v1", name, "(u)." ++ kind ++ ".Type", [],
        [(.text "replicas", .int replicas)]⟩
    let added := [resource "web" "Deployment" "app" 1, resource "Web" "Deployment" "app" 2,
      resource "db" "Service" "List" 1, resource "web" "Deployment" "app" 3]
    let set := added.foldl add (.empty "/m")
    (∀ r ∈ added, ∀ r' ∈ added, r.kind = r'.kind → r.schemaType = r'.schemaType) ∧
      (∀ r ∈ added, r.Labelled) ∧
      (added.reverse.foldl add (.empty "/n")).schemaType = set.schemaType ∧
      ∃ schemas : List WrittenSchema,
        set.schemaType = String.intercalate " ⩓ " (schemas.map WrittenSchema.text) ∧
        (schemas.map fun w => (w.place?, w.type)).Perm
          (added.map fun r => (some r.place, r.schemaType)) ∧
        (∀ p, some p ∈ schemas.map WrittenSchema.place? ↔ (entryAt? set.record p).isSome) ∧
        entryCount set.record = (schemas.map WrittenSchema.place?).toFinset.card := by
  intro resource added set
  have byKind : ∀ r ∈ added, ∀ r' ∈ added, r.kind = r'.kind → r.schemaType = r'.schemaType := by
    simp [added, resource]
  have labelled : ∀ r ∈ added, r.Labelled := by
    unfold Resource.Labelled
    decide
  obtain ⟨anyOrder, covers⟩ := schemaType_covers_record "/m" byKind
  exact ⟨byKind, labelled, anyOrder "/n" added.reverse (List.reverse_perm _), covers labelled⟩

end ResourceSet

end TypedManifests
