/-
Module: TypedManifests.Proofs.CompletedMappings
Purpose: What it does to a document to complete some of its mappings. A mapping is completed in
  every place where it stands, and nothing else is touched; where these mappings are complete or
  stand nowhere, nothing changes at all.
Main exports: Entries.Replaced, Entries.SetTo, Entries.setTo_set, Resource.CompletedTemplate,
  Resource.completeTemplate_completeTemplate, Resource.Becomes, Resource.becomes_completedValue,
  Resource.Complete, Resource.completedEntries_of_complete
-/
import TypedManifests.Manifest.Resource
import TypedManifests.Proofs.Sharing

namespace TypedManifests

/-!
### Setting a key
-/

namespace Entries

variable {entries entries' : Entries} {key : String} {old value : Value}

/-- The first value under a key is exchanged for another; all other entries stay, in their order. -/
def Replaced (key : String) (old value : Value) (entries entries' : Entries) : Prop :=
  ∃ before after : Entries, before.get? key = none ∧
    entries = before ++ (.text key, old) :: after ∧
    entries' = before ++ (.text key, value) :: after

/-- A key gets a value: where it stands, or at the end if it was not there. -/
inductive SetTo (key : String) (value : Value) (entries : Entries) : Entries → Prop where
  | inPlace {old : Value} {entries' : Entries}
      (replaced : Replaced key old value entries entries') : SetTo key value entries entries'
  | appended (absent : entries.get? key = none) :
      SetTo key value entries (entries ++ [(.text key, value)])

theorem replaced_set (found : entries.get? key = some old) :
    Replaced key old value entries (entries.set key value) := by
  induction entries with
  | nil => cases found
  | cons entry rest ih =>
      rw [get?_cons] at found
      rw [set]
      split at found
      · next here =>
        obtain ⟨label, stored⟩ := entry
        obtain rfl : label = .text key := Value.isTextOf_iff.1 here
        obtain rfl : stored = old := Option.some.inj found
        exact ⟨[], rest, rfl, rfl, by rw [if_pos here, List.nil_append]⟩
      · next elsewhere =>
        obtain ⟨before, after, first, eq, eq'⟩ := ih found
        refine ⟨entry :: before, after, ?_, ?_, ?_⟩
        · rw [get?_cons, if_neg elsewhere, first]
        · rw [eq, List.cons_append]
        · rw [if_neg elsewhere, eq', List.cons_append]

theorem set_of_get?_eq_none (absent : entries.get? key = none) :
    entries.set key value = entries ++ [(.text key, value)] := by
  induction entries with
  | nil => rfl
  | cons entry rest ih =>
      rw [get?_cons] at absent
      split at absent
      · cases absent
      · next elsewhere => rw [set, if_neg elsewhere, ih absent, List.cons_append]

theorem setTo_set : SetTo key value entries (entries.set key value) := by
  cases found : entries.get? key with
  | none => exact set_of_get?_eq_none found ▸ .appended found
  | some old => exact .inPlace (replaced_set found)

example : Entries.set "kind" (.text "b") [(.text "kind", .text "a"), (.text "spec", .null)] =
    [(.text "kind", .text "b"), (.text "spec", .null)] := rfl

/-- Setting a key to the value that it has changes nothing. -/
theorem set_of_get?_eq_some (found : entries.get? key = some value) :
    entries.set key value = entries := by
  have replaced : Replaced key value value entries (entries.set key value) := replaced_set found
  obtain ⟨before, after, _, eq, eq'⟩ := replaced
  rw [eq', ← eq]

theorem Replaced.get?_of_ne (replaced : Replaced key old value entries entries')
    (label : String) (other : key ≠ label) : entries'.get? label = entries.get? label := by
  obtain ⟨before, after, -, rfl, rfl⟩ := replaced
  simp [get?, List.find?_append, Value.isTextOf, other]

end Entries

namespace Resource

/-!
### What is completed

A mapping is completed by its mark, and so in every place where it stands.
-/

/-- A template has got its API version, and then its kind. -/
def CompletedTemplate (template template' : Entries) : Prop :=
  ∃ between, Entries.SetTo "apiVersion" (.text "apps/v1") template between ∧
    Entries.SetTo "kind" (.text "PersistentVolumeClaim") between template'

theorem completedTemplate_completeTemplate (template : Entries) :
    CompletedTemplate template (completeTemplate template) :=
  ⟨_, Entries.setTo_set, Entries.setTo_set⟩

/-- A template that was completed is complete. -/
theorem completeTemplate_completeTemplate (template : Entries) :
    completeTemplate (completeTemplate template) = completeTemplate template := by
  have version : (completeTemplate template).get? "apiVersion" = some (.text "apps/v1") := by
    simp [completeTemplate, Entries.get?_set]
  have kind : (completeTemplate template).get? "kind" = some (.text "PersistentVolumeClaim") := by
    simp [completeTemplate, Entries.get?_set]
  rw [completeTemplate, Entries.set_of_get?_eq_some version, Entries.set_of_get?_eq_some kind]

/-- Completing a template changes two keys. -/
theorem get?_completeTemplate {template : Entries} {key : String}
    (other : key ≠ "apiVersion" ∧ key ≠ "kind") :
    (completeTemplate template).get? key = template.get? key := by
  rw [completeTemplate, Entries.get?_set, if_neg other.2.symm, Entries.get?_set,
    if_neg other.1.symm]

mutual

/-- The document has become the value: the mappings with these marks were completed, and all else is
as it was. -/
inductive Becomes (marks : List Mark) : Document → Value → Prop where
  | scalar (v : Value) : Becomes marks (.scalar v) v
  | list {mark : Mark} {items : List Document} {values : List Value}
      (each : ItemsBecome marks items values) : Becomes marks (.list mark items) (.list values)
  | kept {mark : Mark} {entries : List (Value × Document)} {entries' : Entries}
      (other : mark ∉ marks) (each : EntriesBecome marks entries entries') :
      Becomes marks (.map mark entries) (.map entries')
  | completed {mark : Mark} {entries : List (Value × Document)} {between entries' : Entries}
      (template : mark ∈ marks) (each : EntriesBecome marks entries between)
      (done : CompletedTemplate between entries') :
      Becomes marks (.map mark entries) (.map entries')

inductive ItemsBecome (marks : List Mark) : List Document → List Value → Prop where
  | nil : ItemsBecome marks [] []
  | cons {item : Document} {v : Value} {rest : List Document} {vs : List Value}
      (first : Becomes marks item v) (others : ItemsBecome marks rest vs) :
      ItemsBecome marks (item :: rest) (v :: vs)

/-- All keys stay, in their order. -/
inductive EntriesBecome (marks : List Mark) : List (Value × Document) → Entries → Prop where
  | nil : EntriesBecome marks [] []
  | cons {key v : Value} {inner : Document} {rest : List (Value × Document)} {entries' : Entries}
      (first : Becomes marks inner v) (others : EntriesBecome marks rest entries') :
      EntriesBecome marks ((key, inner) :: rest) ((key, v) :: entries')

end

variable {marks : List Mark}

mutual

theorem becomes_completedValue : ∀ d : Document, Becomes marks d (completedValue marks d)
  | .scalar v => .scalar v
  | .list _ items => .list (itemsBecome_completedItems items)
  | .map mark entries => by
      rw [completedValue]
      by_cases template : mark ∈ marks
      · rw [if_pos template]
        exact .completed template (entriesBecome_completedEntries entries)
          (completedTemplate_completeTemplate _)
      · rw [if_neg template]
        exact .kept template (entriesBecome_completedEntries entries)

theorem itemsBecome_completedItems :
    ∀ items : List Document, ItemsBecome marks items (completedItems marks items)
  | [] => .nil
  | item :: rest => .cons (becomes_completedValue item) (itemsBecome_completedItems rest)

theorem entriesBecome_completedEntries : ∀ entries : List (Value × Document),
    EntriesBecome marks entries (completedEntries marks entries)
  | [] => .nil
  | (_, inner) :: rest => .cons (becomes_completedValue inner) (entriesBecome_completedEntries rest)

end

theorem completedItems_eq_map : ∀ items : List Document,
    completedItems marks items = items.map (completedValue marks)
  | [] => rfl
  | item :: rest => by rw [completedItems, completedItems_eq_map rest, List.map_cons]

theorem completedEntries_eq_map : ∀ entries : List (Value × Document),
    completedEntries marks entries =
      entries.map fun entry => (entry.1, completedValue marks entry.2)
  | [] => rfl
  | (key, inner) :: rest => by
      rw [completedEntries, completedEntries_eq_map rest, List.map_cons]

theorem completedEntries_split (before after : List (Value × Document)) (key : Value)
    (d : Document) : completedEntries marks (before ++ (key, d) :: after) =
      completedEntries marks before ++ (key, completedValue marks d) ::
        completedEntries marks after := by
  simp [completedEntries_eq_map]

theorem get?_completedEntries {entries : List (Value × Document)} {key : String} :
    (completedEntries marks entries).get? key =
      (Document.get? entries key).map (completedValue marks) := by
  rw [completedEntries_eq_map, Document.get?_map]

/-- The mappings with these marks among the parts are complete. -/
def Complete (marks : List Mark) (parts : List Document) : Prop :=
  ∀ mark entries, .map mark entries ∈ parts → mark ∈ marks →
    completeTemplate (Document.entryValues entries) = Document.entryValues entries

mutual

/-- Where all that is to be completed is complete, or there is none of it, nothing changes. -/
theorem completedValue_of_complete :
    ∀ {d : Document}, Complete marks d.parts → completedValue marks d = d.value
  | .scalar _, _ => rfl
  | .list _ items, complete => by
      rw [completedValue, Document.value, completedItems_of_complete fun mark entries member =>
        complete mark entries (List.mem_cons_of_mem _ member)]
  | .map mark entries, complete => by
      rw [completedValue, Document.value, completedEntries_of_complete fun mark entries member =>
        complete mark entries (List.mem_cons_of_mem _ member)]
      split
      · next template => rw [complete mark entries List.mem_cons_self template]
      · rfl

theorem completedItems_of_complete : ∀ {items : List Document},
    Complete marks (Document.itemParts items) → completedItems marks items = Document.values items
  | [], _ => rfl
  | item :: rest, complete => by
      rw [completedItems, Document.values,
        completedValue_of_complete fun mark entries member =>
          complete mark entries (List.mem_append_left _ member),
        completedItems_of_complete fun mark entries member =>
          complete mark entries (List.mem_append_right _ member)]

theorem completedEntries_of_complete : ∀ {entries : List (Value × Document)},
    Complete marks (Document.entryParts entries) →
      completedEntries marks entries = Document.entryValues entries
  | [], _ => rfl
  | (_, inner) :: rest, complete => by
      rw [completedEntries, Document.entryValues,
        completedValue_of_complete fun mark entries member =>
          complete mark entries (List.mem_append_left _ member),
        completedEntries_of_complete fun mark entries member =>
          complete mark entries (List.mem_append_right _ member)]

end

end Resource

end TypedManifests
