/-
Module: TypedManifests.Proofs.ContainerSummary
Purpose: The components summary of reshaped data. The search for the containers of a workload looks
  into mappings and passes lists by, while reshaping makes mappings of keyed lists; so it may find
  in reshaped data what it passed by before. If no list that it passes by mentions `containers`, and
  no convention covers `containers` or `name`, it finds the same names.
Main exports: Mentions, Clear, containerNames?_of_not_mentions, SparesContainers,
  namesOf?_reshaped, containerNames?_of_clear, summarize_conformData, summarize_changed
-/
import TypedManifests.Manifest.Components
import TypedManifests.Proofs.Agreement
import TypedManifests.Proofs.ReshapedParts

namespace TypedManifests

open TypedManifests.TypeExpr

/-- Somewhere in the value a mapping has the key `word`, or a list an item of this name. -/
inductive Value.Mentions (word : String) : Value → Prop where
  | key {entries : List (Value × Value)} {entry : Value × Value} (member : entry ∈ entries)
      (isWord : entry.1 = .text word) : Mentions word (.map entries)
  | value {entries : List (Value × Value)} {entry : Value × Value} (member : entry ∈ entries)
      (inside : Mentions word entry.2) : Mentions word (.map entries)
  | name {items : List Value} {item : Value} (member : item ∈ items)
      (named : KeyedList.name? "name" item = some word) : Mentions word (.list items)
  | item {items : List Value} {item : Value} (member : item ∈ items)
      (inside : Mentions word item) : Mentions word (.list items)

@[simp] theorem Value.mentions_list {word : String} {items : List Value} :
    Mentions word (.list items) ↔
      ∃ item ∈ items, KeyedList.name? "name" item = some word ∨ Mentions word item := by
  constructor
  · rintro (_ | _ | ⟨member, named⟩ | ⟨member, inside⟩)
    · exact ⟨_, member, .inl named⟩
    · exact ⟨_, member, .inr inside⟩
  · rintro ⟨item, member, named | inside⟩
    · exact .name member named
    · exact .item member inside

@[simp] theorem Value.mentions_map {word : String} {entries : Entries} :
    Mentions word (.map entries) ↔
      ∃ entry ∈ entries, entry.1 = .text word ∨ Mentions word entry.2 := by
  constructor
  · rintro (⟨member, isWord⟩ | ⟨member, inside⟩)
    · exact ⟨_, member, .inl isWord⟩
    · exact ⟨_, member, .inr inside⟩
  · rintro ⟨entry, member, isWord | inside⟩
    · exact .key member isWord
    · exact .value member inside

@[simp] theorem Value.not_mentions_text {word s : String} : ¬ Mentions word (.text s) := nofun

theorem Value.Mentions.of_subset {word : String} {kept entries : Entries} (sub : kept ⊆ entries)
    (mentions : Mentions word (.map kept)) : Mentions word (.map entries) := by
  cases mentions with
  | key member isWord => exact .key (sub member) isWord
  | value member inside => exact .value (sub member) inside

namespace Components

mutual

/-- Up to the entry at which the search for containers ends, it meets only mappings and values that
do not mention `containers`. -/
def Clear : Value → Prop
  | .map entries => ClearEntries entries
  | v => ¬ v.Mentions "containers"

def ClearEntries : List (Value × Value) → Prop
  | [] => True
  | (key, value) :: rest =>
    key.isTextOf "containers" = true ∧ (namesOf? value).isSome = true ∨
      Clear value ∧ ((containerNames? value).isSome = true ∨ ClearEntries rest)

end

/-!
### Values that do not mention containers
-/

section

variable {r : Reshaping} {label : Option String}

theorem containerNamesIn?_eq_none {entries entries' : Entries}
    (each : ∀ entry ∈ entries, entry.1 ≠ .text "containers" ∧
      ∀ v', r.Reshaped (some entry.1.keyText) entry.2 v' → containerNames? v' = none)
    (reshaped : r.ReshapedEntries entries entries') : containerNamesIn? entries' = none := by
  induction reshaped with
  | nil => rw [containerNamesIn?]
  | @cons entry entry' rest rest' first others ih =>
      obtain ⟨key, value⟩ := entry'
      have here := each entry List.mem_cons_self
      have otherKey : key.isTextOf "containers" = false := by
        rw [Bool.eq_false_iff, ne_eq, Value.isTextOf_iff]
        exact fun same => here.1 (first.1.symm.trans same)
      rw [containerNamesIn?, otherKey, here.2 value first.2]
      exact ih fun other member => each other (List.mem_cons_of_mem _ member)

theorem containerNames?_of_not_map {v : Value} (other : ∀ entries, v ≠ .map entries) :
    containerNames? v = none := by
  cases v with
  | map entries => exact absurd rfl (other entries)
  | _ => simp [containerNames?]

theorem containerNames?_imageReference (withDigest : Bool) (reference : ImageReference) :
    containerNames? (reference.toValue withDigest) = none := by
  have noMap : ∀ text : Option String, containerNames? (.ofText? text) = none := fun text =>
    containerNames?_of_not_map (by cases text <;> simp [Value.ofText?])
  cases withDigest <;>
    simp [ImageReference.toValue, Value.ofFields, Value.isTextOf, containerNames?,
      containerNamesIn?, noMap]

/-- The names of a keyed list are the names of its items. -/
theorem exists_item_of_namedItems {keyFields : List String} {items : List Value} {keyed : KeyedList}
    (isKeyed : KeyedList.of? keyFields items = some keyed) {part : String × Value}
    (member : part ∈ SampleIndex.namedItems keyed.field items) :
    ∃ item ∈ items, KeyedList.name? keyed.field item = some part.1 := by
  obtain ⟨_, _, _, named⟩ := KeyedList.of?_eq_some isKeyed
  have listed : some part.1 ∈ items.map (KeyedList.name? keyed.field) := by
    rw [named, ← SampleIndex.namedItems_names named]
    exact List.mem_map_of_mem (List.mem_map_of_mem member)
  exact List.mem_map.1 listed

/-- Where nothing is called `containers`, reshaping brings up no containers. The induction is on the
value; the items of a keyed list come up without their key field. -/
theorem containerNames?_of_not_mentions (byName : r.keyFields = ["name"]) (v : Value) :
    ∀ label v', ¬ v.Mentions "containers" → r.Reshaped label v v' → containerNames? v' = none := by
  induction v using Value.byItems with
  | plain v plain =>
      intro label v' _ reshaped
      rw [Reshaping.reshaped_plain plain reshaped]
      refine containerNames?_of_not_map fun entries isMap => ?_
      subst isMap
      exact plain
  | text s =>
      intro label v' _ reshaped
      rcases Reshaping.reshaped_text reshaped with rfl | ⟨c, _, _, _, _, rfl⟩
      · exact containerNames?_of_not_map (by simp)
      · exact containerNames?_imageReference c.withDigest _
  | list items ih parts =>
      intro label v' clear reshaped
      rcases Reshaping.reshaped_list reshaped with ⟨items', rfl, _⟩ | ⟨keyed, isKeyed, reshaped⟩
      · exact containerNames?_of_not_map (by simp)
      · obtain ⟨entries', rfl, inside⟩ := Reshaping.reshaped_map reshaped
        have field : keyed.field = "name" := by
          simpa [byName] using (KeyedList.of?_eq_some isKeyed).1
        rw [containerNames?]
        refine containerNamesIn?_eq_none (fun entry listed => ?_) inside
        obtain ⟨part, member, rfl⟩ := List.mem_map.1 listed
        refine ⟨fun isWord => ?_, fun v' shaped => ?_⟩
        · obtain ⟨item, itemMember, named⟩ := exists_item_of_namedItems isKeyed member
          rw [field, show part.1 = "containers" by simpa using isWord] at named
          exact clear (.name itemMember named)
        · obtain ⟨entries, itemMember, rest⟩ := SampleIndex.mem_namedItems member
          rw [rest] at shaped
          refine parts entries itemMember _ (List.filter_subset_self entries) _ v' ?_ shaped
          exact fun mentions =>
            clear (.item itemMember (mentions.of_subset (List.filter_subset_self entries)))
  | map entries ih =>
      intro label v' clear reshaped
      obtain ⟨entries', rfl, inside⟩ := Reshaping.reshaped_map reshaped
      rw [containerNames?]
      refine containerNamesIn?_eq_none (fun entry listed => ⟨?_, fun v' shaped => ?_⟩) inside
      · exact fun isWord => clear (.key listed isWord)
      · exact ih entry listed _ v' (fun mentions => clear (.value listed mentions)) shaped

/-!
### The names of containers

A list of containers is keyed by name at most, so it has the same names before and after.
-/

/-- Lists are keyed by name, and neither containers nor names are taken for image references. -/
structure SparesContainers (r : Reshaping) : Prop where
  byName : r.keyFields = ["name"]
  containers : ∀ c ∈ r.conventions, "containers" ∉ c.labels
  name : ∀ c ∈ r.conventions, "name" ∉ c.labels

theorem text?_reshaped {l : String} {v v' : Value} (uncovered : ∀ c ∈ r.conventions, l ∉ c.labels)
    (reshaped : r.Reshaped (some l) v v') : v'.text? = v.text? := by
  cases v with
  | text s =>
      rcases Reshaping.reshaped_text reshaped with rfl | ⟨c, member, _, ⟨⟩, covers, _⟩
      · rfl
      · exact absurd covers (uncovered c member)
  | list items =>
      rcases Reshaping.reshaped_list reshaped with ⟨items', rfl, _⟩ | ⟨keyed, _, reshaped⟩
      · rfl
      · obtain ⟨entries', rfl, _⟩ := Reshaping.reshaped_map reshaped
        rfl
  | map entries =>
      obtain ⟨entries', rfl, _⟩ := Reshaping.reshaped_map reshaped
      rfl
  | _ => rw [Reshaping.reshaped_plain (by trivial) reshaped]

/-- What reshaping leaves the same in values it leaves the same in what is found under a key. -/
theorem get?_bind_reshaped {β : Type} {f : Value → Option β} {key : String}
    (same : ∀ v v', r.Reshaped (some key) v v' → f v' = f v) {entries entries' : Entries}
    (reshaped : r.ReshapedEntries entries entries') :
    (entries'.get? key).bind f = (entries.get? key).bind f := by
  induction reshaped with
  | nil => rfl
  | @cons entry entry' rest rest' first others ih =>
      rw [Entries.get?_cons, Entries.get?_cons, first.1]
      split
      · next here => exact same _ _ (keyText_of_isTextOf here ▸ first.2)
      · exact ih

theorem itemName?_map (entries : Entries) :
    itemName? (.map entries) = (entries.get? "name").bind Value.text? := rfl

/-- The other entries of an item are a mapping, not a text, so a mapping by name has no name. -/
theorem itemName?_namedItems (field : String) (items : List Value) :
    itemName? (.ofFields (SampleIndex.namedItems field items)) = none := by
  rw [Value.ofFields, itemName?_map, Option.bind_eq_none_iff]
  intro v found
  obtain ⟨entry, here, rfl⟩ := Option.map_eq_some_iff.1 found
  obtain ⟨part, member, rfl⟩ := List.mem_map.1 (List.mem_of_find?_eq_some here)
  obtain ⟨entries, _, rest⟩ := SampleIndex.mem_namedItems member
  simp only [rest]
  rfl

/-- An item keeps its name. -/
theorem itemName?_reshaped {item item' : Value} (spares : SparesContainers r)
    (reshaped : r.Reshaped none item item') : itemName? item' = itemName? item := by
  have ofMap : ∀ entries : Entries, r.Reshaped none (.map entries) item' →
      itemName? item' = itemName? (.map entries) := by
    intro entries reshaped
    obtain ⟨entries', rfl, inside⟩ := Reshaping.reshaped_map reshaped
    rw [itemName?_map, itemName?_map]
    exact get?_bind_reshaped (fun _ _ shaped => text?_reshaped spares.name shaped) inside
  cases item with
  | text s =>
      rcases Reshaping.reshaped_text reshaped with rfl | ⟨_, _, _, ⟨⟩, _⟩
      rfl
  | list items =>
      rcases Reshaping.reshaped_list reshaped with ⟨items', rfl, _⟩ | ⟨keyed, _, reshaped⟩
      · rfl
      · exact (ofMap _ reshaped).trans (itemName?_namedItems keyed.field items)
  | map entries => exact ofMap entries reshaped
  | _ => rw [Reshaping.reshaped_plain (by trivial) reshaped]

theorem namesOf?_map_reshaped {entries : Entries} {v' : Value}
    (reshaped : r.Reshaped label (.map entries) v') : namesOf? v' = namesOf? (.map entries) := by
  obtain ⟨entries', rfl, inside⟩ := Reshaping.reshaped_map reshaped
  rw [namesOf?, namesOf?, Option.some.injEq]
  clear reshaped
  induction inside with
  | nil => rfl
  | cons first others ih => rw [List.map_cons, List.map_cons, first.1, ih]

/-- The mapping by name has the names that the items have. -/
theorem namesOf?_namedItems {items : List Value} {keyed : KeyedList}
    (isKeyed : KeyedList.of? ["name"] items = some keyed) :
    namesOf? (.ofFields (SampleIndex.namedItems keyed.field items)) = namesOf? (.list items) := by
  obtain ⟨isField, _, _, named⟩ := KeyedList.of?_eq_some isKeyed
  rw [List.mem_singleton.1 isField] at named ⊢
  have listed : ∀ item ∈ items, itemName? item = KeyedList.name? "name" item := by
    intro item member
    have some := List.mem_map_of_mem (f := KeyedList.name? "name") member
    rw [named] at some
    obtain ⟨name, _, isName⟩ := List.mem_map.1 some
    obtain ⟨entries, rfl, found, _⟩ := KeyedList.name?_eq_some.1 isName.symm
    rw [← isName, itemName?_map, found]
    rfl
  have names : items.filterMap itemName? = keyed.names := by
    have kept := congrArg (List.filterMap id) ((List.map_congr_left listed).trans named)
    simpa [List.filterMap_map] using kept
  rw [namesOf?, Value.ofFields, namesOf?, names, ← SampleIndex.namedItems_names named, List.map_map]
  rfl

/-- The names of containers stay. -/
theorem namesOf?_reshaped {v v' : Value} (spares : SparesContainers r)
    (reshaped : r.Reshaped (some "containers") v v') : namesOf? v' = namesOf? v := by
  cases v with
  | text s =>
      rcases Reshaping.reshaped_text reshaped with rfl | ⟨c, member, _, ⟨⟩, covers, _⟩
      · rfl
      · exact absurd covers (spares.containers c member)
  | list items =>
      rcases Reshaping.reshaped_list reshaped with ⟨items', rfl, each⟩ | ⟨keyed, isKeyed, reshaped⟩
      · rw [namesOf?, namesOf?, Option.some.injEq]
        clear reshaped
        induction each with
        | nil => rfl
        | cons first others ih =>
            rw [List.filterMap_cons, List.filterMap_cons, ih, itemName?_reshaped spares first]
      · rw [spares.byName] at isKeyed
        exact (namesOf?_map_reshaped reshaped).trans (namesOf?_namedItems isKeyed)
  | map entries => exact namesOf?_map_reshaped reshaped
  | _ => rw [Reshaping.reshaped_plain (by trivial) reshaped]

/-!
### The summary
-/

theorem containerNamesIn?_of_clear (spares : SparesContainers r) {entries entries' : Entries}
    (each : ∀ entry ∈ entries, Clear entry.2 → ∀ v', r.Reshaped (some entry.1.keyText) entry.2 v' →
      containerNames? v' = containerNames? entry.2)
    (clear : ClearEntries entries) (reshaped : r.ReshapedEntries entries entries') :
    containerNamesIn? entries' = containerNamesIn? entries := by
  induction reshaped with
  | nil => rfl
  | @cons entry entry' rest rest' first others ih =>
      obtain ⟨_, value⟩ := entry
      obtain ⟨key, value'⟩ := entry'
      obtain ⟨same, shaped⟩ := first
      obtain rfl : key = _ := same
      have names : (if key.isTextOf "containers" then namesOf? value' else none) =
          if key.isTextOf "containers" then namesOf? value else none := by
        split
        · next isWord =>
          rw [keyText_of_isTextOf isWord] at shaped
          exact namesOf?_reshaped spares shaped
        · rfl
      rw [ClearEntries] at clear
      rw [containerNamesIn?, containerNamesIn?, names]
      rcases clear with ⟨isWord, found⟩ | ⟨inside, after⟩
      · obtain ⟨names, found⟩ := Option.isSome_iff_exists.1 found
        rw [if_pos isWord, found]
      · rw [each _ List.mem_cons_self inside _ shaped]
        rcases after with found | after
        · obtain ⟨names, found⟩ := Option.isSome_iff_exists.1 found
          rw [found]
        · rw [ih (fun other member => each other (List.mem_cons_of_mem _ member)) after]

theorem not_mentions_of_clear {v : Value} (other : ∀ entries, v ≠ .map entries) (clear : Clear v) :
    ¬ v.Mentions "containers" := by
  cases v with
  | map entries => exact absurd rfl (other entries)
  | _ => exact clear

/-- Where the search is clear, it finds the same names in reshaped data. -/
theorem containerNames?_of_clear (spares : SparesContainers r) (v : Value) :
    ∀ label v', Clear v → r.Reshaped label v v' → containerNames? v' = containerNames? v := by
  have ofOther : ∀ v : Value, (∀ entries, v ≠ .map entries) → ∀ label v', Clear v →
      r.Reshaped label v v' → containerNames? v' = containerNames? v := by
    intro v other label v' clear reshaped
    rw [containerNames?_of_not_map other]
    exact containerNames?_of_not_mentions spares.byName v label v'
      (not_mentions_of_clear other clear) reshaped
  induction v using Value.byItems with
  | plain v plain => exact ofOther v (by rintro _ rfl; exact plain)
  | text s => exact ofOther (.text s) (by simp)
  | list items _ _ => exact ofOther (.list items) (by simp)
  | map entries ih =>
      intro label v' clear reshaped
      obtain ⟨entries', rfl, inside⟩ := Reshaping.reshaped_map reshaped
      rw [containerNames?, containerNames?]
      refine containerNamesIn?_of_clear spares ?_ clear inside
      exact fun entry member clear v' shaped => ih entry member _ v' clear shaped

end

/-- The value is a mapping, and the property holds of each key and its value. -/
def EachEntry (P : Value → Value → Prop) : Value → Prop
  | .map entries => ∀ entry ∈ entries, P entry.1 entry.2
  | _ => False

theorem eachEntry_ofFields {P : Value → Value → Prop} {fields : List (String × Value)} :
    EachEntry P (.ofFields fields) ↔ ∀ field ∈ fields, P (.text field.1) field.2 := by
  rw [Value.ofFields, EachEntry]
  exact List.forall_mem_map

/-- The property holds of the kind and the contents of each object in a merged record. -/
def EachObject (P : Value → Value → Prop) : Value → Prop :=
  EachEntry fun _ kinds => EachEntry (fun kind objects =>
    EachEntry (fun _ contents => P kind contents) objects) kinds

theorem mapValues_map (f : Value → Value → Value) (entries : Entries) :
    mapValues f (.map entries) = .map (entries.map fun entry => (entry.1, f entry.1 entry.2)) := rfl

/-- What is said of the values of a mapping stays if it stays for each of them. -/
theorem mapValues_reshaped {r : Reshaping} {P : Value → Value → Prop} {f : Value → Value → Value}
    (same : ∀ key v, P key v → ∀ label v', r.Reshaped label v v' → f key v' = f key v)
    {v : Value} (each : EachEntry P v) :
    ∀ label v', r.Reshaped label v v' → mapValues f v' = mapValues f v := by
  intro label v' reshaped
  cases v with
  | map entries =>
      obtain ⟨entries', rfl, inside⟩ := Reshaping.reshaped_map reshaped
      rw [mapValues_map, mapValues_map, Value.map.injEq]
      clear reshaped
      induction inside with
      | nil => rfl
      | cons first others ih =>
          rw [List.map_cons, List.map_cons, first.1,
            same _ _ (each _ List.mem_cons_self) _ _ first.2,
            ih fun other member => each other (List.mem_cons_of_mem _ member)]
  | _ => cases each

theorem summarizeObject_reshaped {r : Reshaping} (spares : SparesContainers r)
    (kind contents : Value) (clear : workloadKinds.any kind.isTextOf = true → Clear contents)
    (label : Option String) (contents' : Value) (reshaped : r.Reshaped label contents contents') :
    summarizeObject kind contents' = summarizeObject kind contents := by
  rw [summarizeObject, summarizeObject]
  split
  · next workload =>
    rw [containerNames?_of_clear spares contents label contents' (clear workload) reshaped]
  · rfl

/-- Reshaping a merged record by any type does not change the components summary, if no convention
covers `containers` or `name` and the search for containers is clear in each workload. -/
theorem summarize_conformData (conventions : List ImageConvention) (type : TypeExpr)
    (record : Value)
    (uncovered : ∀ c ∈ conventions, "containers" ∉ c.labels ∧ "name" ∉ c.labels)
    (clear : EachObject (fun kind contents =>
      workloadKinds.any kind.isTextOf = true → Clear contents) record) :
    summarize (conformData conventions ["name"] type record) = summarize record := by
  have reshaped : (Reshaping.mk conventions ["name"]).Reshaped none record
      (conformData conventions ["name"] type record) := ⟨type, rfl⟩
  have spares : SparesContainers ⟨conventions, ["name"]⟩ :=
    ⟨rfl, fun c member => (uncovered c member).1, fun c member => (uncovered c member).2⟩
  refine mapValues_reshaped (fun _ kinds merged => ?_) clear none _ reshaped
  refine mapValues_reshaped (fun kind objects named => ?_) merged
  exact mapValues_reshaped (fun _ contents => summarizeObject_reshaped spares kind contents) named

/-- A list before the containers, and behind them and in a service an item called `containers`. -/
theorem summarize_conformData_initContainers :
    let item (name : String) : Value := .ofFields [("name", .text name), ("image", .text "a/b:1")]
    let pod : Value := .ofFields
      [("initContainers", .list [item "setup"]), ("containers", .list [item "app", item "log"]),
        ("volumes", .list [item "containers"])]
    let service : Value := .ofFields [("ports", .list [item "containers"])]
    let record : Value := .ofFields [("Front", .ofFields
      [("Deployment", .ofFields [("web", pod)]), ("Service", .ofFields [("web", service)])])]
    let conventions : List ImageConvention := [⟨["image"], false⟩]
    let items : TypeExpr := .list (.record [("name", .text), ("image", .text)])
    let t : TypeExpr := .record [("Front", .record
      [("Deployment", .record [("web", .record
        [("initContainers", items), ("containers", items), ("volumes", items)])]),
       ("Service", .record [("web", .record [("ports", items)])])])]
    let lists := Pass.listToRecord (SampleIndex.ofValue ["name"] record) ["name"]
    let t' := (Pass.conventions conventions).apply (lists.apply t)
    (∀ c ∈ conventions, "containers" ∉ c.labels ∧ "name" ∉ c.labels) ∧
      EachObject (fun kind contents =>
        workloadKinds.any kind.isTextOf = true → Clear contents) record ∧
      summarize (conformData conventions ["name"] t' record) = summarize record := by
  intro item pod service record conventions items t lists t'
  have uncovered : ∀ c ∈ conventions, "containers" ∉ c.labels ∧ "name" ∉ c.labels := by decide
  have clearPod : Clear pod := by
    simp [pod, item, Value.ofFields, Clear, ClearEntries, Value.isTextOf, KeyedList.name?,
      Value.entries?, Entries.get?, Value.text?, namesOf?]
  have clear : EachObject (fun kind contents =>
      workloadKinds.any kind.isTextOf = true → Clear contents) record := by
    simp [EachObject, eachEntry_ofFields, record, clearPod, workloadKinds, Value.isTextOf]
  exact ⟨uncovered, clear, summarize_conformData conventions t' record uncovered clear⟩

/-- With the conventions given by default, an item called `containers` that comes before the
containers takes their place once the list that it is in is a mapping. -/
theorem summarize_changed :
    ∃ (t : TypeExpr) (record : Value),
      EachObject (fun _ contents => contents.isMap = true) record ∧ t.UniqueLabels ∧
        Fits (fun _ _ => True) t record ∧
          let conventions : List ImageConvention := [⟨["image"], false⟩]
          let lists := Pass.listToRecord (SampleIndex.ofValue ["name"] record) ["name"]
          let t' := (Pass.conventions conventions).apply (lists.apply t)
          summarize (conformData conventions ["name"] t' record) ≠ summarize record := by
  let named (name : String) : Value := .list [.ofFields [("name", .text name)]]
  let pod : Value := .ofFields
    [("imagePullSecrets", named "containers"), ("containers", named "app")]
  let record : Value :=
    .ofFields [("Front", .ofFields [("Deployment", .ofFields [("web", pod)])])]
  let names : TypeExpr := .list (.record [("name", .text)])
  let podType : TypeExpr := .record [("imagePullSecrets", names), ("containers", names)]
  let t : TypeExpr := .record [("Front", .record [("Deployment", .record [("web", podType)])])]
  have namedFits : ∀ name, Fits (fun _ _ => True) names (named name) := by
    intro name
    have text : Fits (fun _ _ => True) .text (.text name) := .text name
    refine .list fun item listed => ?_
    rw [List.mem_singleton.1 listed]
    exact fits_ofFields (by simp) (by simp [text]) (by simp)
  have podFits : Fits (fun _ _ => True) podType pod :=
    fits_ofFields (by simp) (by simp [namedFits]) (by simp)
  have fits : Fits (fun _ _ => True) t record := by
    have objects : Fits (fun _ _ => True) (.record [("web", podType)]) (.ofFields [("web", pod)]) :=
      fits_ofFields (by simp) (by simp [podFits]) (by simp)
    have kinds : Fits (fun _ _ => True) (.record [("Deployment", .record [("web", podType)])])
        (.ofFields [("Deployment", .ofFields [("web", pod)])]) :=
      fits_ofFields (by simp) (by simp [objects]) (by simp)
    exact fits_ofFields (by simp) (by simp [kinds]) (by simp)
  refine ⟨t, record, ?_, ?_, fits, ?_⟩
  · have mapping : pod.isMap = true := rfl
    simp [EachObject, eachEntry_ofFields, record, mapping]
  · simp [t, podType, names, UniqueLabels, UniqueLabelsFields, TypeExpr.text]
  · intro conventions lists t'
    let summary (names : List String) : Value := .ofFields [("Front", .ofFields
      [("Deployment", .ofFields [("web", .ofFields [("containers", emptyMaps names)])])])]
    have before : summarize record = summary ["app"] := by rfl
    have after : summarize (conformData conventions ["name"] t' record) = summary [] := by rfl
    rw [before, after]
    simp [summary, Value.ofFields, emptyMaps, Entries.set]

end Components

end TypedManifests
