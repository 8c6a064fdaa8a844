/-
Module: TypedManifests.Proofs.HeadKeys
Purpose: What the customary order of keys does to a value, at every depth: each mapping has its head
  keys first and all others after them as they stood, and nothing else is changed. Values have one
  form in this order if they differ in nothing but the places of their head keys.
Main exports: KeyOrder.headFirst_eq_iff, KeyOrder.map_fst_headFirst, Value.ordered_ordered,
  Value.SameButHeads, Value.ordered_eq_iff, Value.ordered_canonical
-/
import TypedManifests.Proofs.EntryOrder
import TypedManifests.Run.Conversion

namespace TypedManifests

/-!
### The entries of one mapping
-/

namespace KeyOrder

variable {entries entries' : Entries} {key : String}

/-- The entries under a key. -/
def under (key : String) (entries : Entries) : Entries :=
  entries.filter fun entry => entry.1.isTextOf key

/-- The entries under keys that are no head keys. -/
def others (entries : Entries) : Entries :=
  entries.filter fun entry => !isHead entry.1

theorem headFirst_eq (entries : Entries) :
    headFirst entries = headKeys.flatMap (fun key => under key entries) ++ others entries := rfl

theorem under_subset (key : String) (entries : Entries) : under key entries ⊆ entries :=
  List.filter_subset_self _

theorem others_subset (entries : Entries) : others entries ⊆ entries :=
  List.filter_subset_self _

theorem under_append (key : String) (entries entries' : Entries) :
    under key (entries ++ entries') = under key entries ++ under key entries' :=
  List.filter_append ..

theorem others_append (entries entries' : Entries) :
    others (entries ++ entries') = others entries ++ others entries' :=
  List.filter_append ..

theorem under_under (key other : String) (entries : Entries) :
    under key (under other entries) = if key = other then under key entries else [] := by
  rw [under, under, List.filter_filter]
  split
  · next same => simp [same, under]
  · next different =>
    rw [List.filter_eq_nil_iff]
    intro entry _ both
    rw [Bool.and_eq_true, Value.isTextOf_iff, Value.isTextOf_iff] at both
    exact different (Value.text.inj (both.1.symm.trans both.2))

theorem isHead_of_isTextOf {v : Value} (head : key ∈ headKeys) (isKey : v.isTextOf key = true) :
    isHead v = true :=
  List.any_eq_true.2 ⟨key, head, isKey⟩

theorem under_others (head : key ∈ headKeys) (entries : Entries) :
    under key (others entries) = [] := by
  rw [under, others, List.filter_filter, List.filter_eq_nil_iff]
  intro entry _ both
  rw [Bool.and_eq_true] at both
  simp [isHead_of_isTextOf head both.1] at both

theorem others_under (head : key ∈ headKeys) (entries : Entries) :
    others (under key entries) = [] := by
  rw [others, under, List.filter_filter, List.filter_eq_nil_iff]
  intro entry _ both
  rw [Bool.and_eq_true] at both
  simp [isHead_of_isTextOf head both.2] at both

theorem others_others (entries : Entries) : others (others entries) = others entries := by
  simp [others, List.filter_filter]

/-- Among the entries under several keys, a key leads to its own. -/
theorem under_flatMap (key : String) (entries : Entries) : ∀ keys : List String, keys.Nodup →
    under key (keys.flatMap fun other => under other entries) =
      if key ∈ keys then under key entries else []
  | [], _ => rfl
  | other :: rest, nodup => by
      rw [List.nodup_cons] at nodup
      rw [List.flatMap_cons, under_append, under_under, under_flatMap key entries rest nodup.2]
      by_cases same : key = other
      · simp [same, nodup.1]
      · simp [same]

/-- A head key leads to the same entries as before. -/
theorem under_headFirst (head : key ∈ headKeys) (entries : Entries) :
    under key (headFirst entries) = under key entries := by
  rw [headFirst_eq, under_append, under_flatMap key entries headKeys (by decide), if_pos head,
    under_others head, List.append_nil]

/-- The other entries stand in the order that they had. -/
theorem others_headFirst (entries : Entries) : others (headFirst entries) = others entries := by
  have none : others (headKeys.flatMap fun key => under key entries) = [] := by
    rw [others, List.filter_flatMap, List.flatMap_eq_nil_iff]
    exact fun key head => others_under head entries
  rw [headFirst_eq, others_append, none, others_others, List.nil_append]

/-- Two mappings are the same with their head keys first if they have the same entries under each
head key and the same others in the same order. -/
theorem headFirst_eq_iff :
    headFirst entries = headFirst entries' ↔
      (∀ key ∈ headKeys, under key entries = under key entries') ∧
        others entries = others entries' := by
  constructor
  · intro same
    refine ⟨fun key head => ?_, ?_⟩
    · rw [← under_headFirst head entries, same, under_headFirst head]
    · rw [← others_headFirst entries, same, others_headFirst]
  · rintro ⟨heads, rest⟩
    rw [headFirst_eq, headFirst_eq, rest, List.flatMap_congr heads]

theorem headFirst_headFirst (entries : Entries) :
    headFirst (headFirst entries) = headFirst entries :=
  headFirst_eq_iff.2 ⟨fun _ head => under_headFirst head entries, others_headFirst entries⟩

/-- Of different keys at most one is the given text. -/
theorem map_fst_under (distinct : (entries.map Prod.fst).Nodup) (key : String) :
    (under key entries).map Prod.fst =
      if entries.any fun entry => entry.1.isTextOf key then [.text key] else [] := by
  induction entries with
  | nil => rfl
  | cons entry rest ih =>
      rw [List.map_cons, List.nodup_cons] at distinct
      have split : under key (entry :: rest) =
          if entry.1.isTextOf key then entry :: under key rest else under key rest :=
        List.filter_cons
      rw [split, List.any_cons]
      cases here : entry.1.isTextOf key with
      | false =>
          rw [Bool.false_or]
          exact ih distinct.2
      | true =>
          have isKey := Value.isTextOf_iff.1 here
          have none : under key rest = [] := by
            rw [under, List.filter_eq_nil_iff]
            intro other member again
            have same : other.1 = entry.1 := (Value.isTextOf_iff.1 again).trans isKey.symm
            exact distinct.1 (same ▸ List.mem_map_of_mem member)
          simp [isKey, none]

/-- Where the keys are different, the head keys that there are come first, in their own order, and
then all other keys in the order that they had. -/
theorem map_fst_headFirst (distinct : (entries.map Prod.fst).Nodup) :
    (headFirst entries).map Prod.fst =
      (headKeys.filter fun key => entries.any fun entry => entry.1.isTextOf key).map .text ++
        (entries.map Prod.fst).filter fun key => !isHead key := by
  have heads (keys : List String) : (keys.flatMap fun key => under key entries).map Prod.fst =
      (keys.filter fun key => entries.any fun entry => entry.1.isTextOf key).map .text := by
    induction keys with
    | nil => rfl
    | cons key rest ih =>
        rw [List.flatMap_cons, List.map_append, ih, map_fst_under distinct, List.filter_cons]
        split <;> simp
  rw [headFirst_eq, List.map_append, heads, others, List.filter_map]
  rfl

/-- Values that are exchanged under their keys leave the order alone. -/
theorem headFirst_map (f : Value → Value) (entries : Entries) :
    headFirst (entries.map fun entry => (entry.1, f entry.2)) =
      (headFirst entries).map fun entry => (entry.1, f entry.2) := by
  simp only [headFirst_eq, under, others, List.filter_map, List.map_append, List.map_flatMap]
  rfl

end KeyOrder

/-!
### Values in customary order

The induction is on the value, whose parts are in customary order themselves.
-/

namespace Value

theorem orderedItems_eq_map (items : List Value) :
    KeyOrder.orderedItems items = items.map ordered := by
  induction items with
  | nil => rfl
  | cons v rest ih =>
      rw [KeyOrder.orderedItems, ih]
      rfl

theorem orderedEntries_eq_map (entries : Entries) :
    KeyOrder.orderedEntries entries = entries.map fun entry => (entry.1, entry.2.ordered) := by
  induction entries with
  | nil => rfl
  | cons entry rest ih =>
      rw [KeyOrder.orderedEntries, ih]
      rfl

theorem ordered_list (items : List Value) : (list items).ordered = .list (items.map ordered) := by
  rw [ordered, KeyOrder.ordered, orderedItems_eq_map]

theorem ordered_map (entries : Entries) :
    (map entries).ordered =
      .map (KeyOrder.headFirst (entries.map fun entry => (entry.1, entry.2.ordered))) := by
  rw [ordered, KeyOrder.ordered, orderedEntries_eq_map]

/-- The value is neither a list nor a mapping. -/
def IsScalar : Value → Prop
  | .list _ | .map _ => False
  | _ => True

theorem isScalar_of_isPlain {v : Value} (plain : v.IsPlain) : v.IsScalar := by
  cases v with
  | list | map => cases plain
  | _ => trivial

theorem ordered_scalar {v : Value} (scalar : v.IsScalar) : v.ordered = v := by
  cases v with
  | list | map => cases scalar
  | _ => rfl

theorem ordered_ordered (v : Value) : v.ordered.ordered = v.ordered := by
  induction v using byItems with
  | plain v plain =>
      have same := ordered_scalar (isScalar_of_isPlain plain)
      rw [same, same]
  | text s => rfl
  | list items each _ =>
      rw [ordered_list, ordered_list, List.map_map]
      exact congrArg list (List.map_congr_left each)
  | map entries each =>
      have values : (entries.map fun entry => (entry.1, entry.2.ordered)).map
            (fun entry => (entry.1, entry.2.ordered)) =
          entries.map fun entry => (entry.1, entry.2.ordered) := by
        rw [List.map_map]
        exact List.map_congr_left fun entry member => congrArg (Prod.mk entry.1) (each entry member)
      rw [ordered_map, ordered_map, ← KeyOrder.headFirst_map, values, KeyOrder.headFirst_headFirst]

/-- The values differ in nothing but the places of head keys: their mappings have the same entries
under each head key, and the same other entries in the same order. -/
inductive SameButHeads : Value → Value → Prop where
  | scalar (v : Value) (scalar : v.IsScalar) : SameButHeads v v
  | list {items items' : List Value} (each : List.Forall₂ SameButHeads items items') :
      SameButHeads (.list items) (.list items')
  | map {entries entries' : Entries}
      (heads : ∀ key ∈ KeyOrder.headKeys, List.Forall₂ (SameEntry SameButHeads)
        (KeyOrder.under key entries) (KeyOrder.under key entries'))
      (others : List.Forall₂ (SameEntry SameButHeads)
        (KeyOrder.others entries) (KeyOrder.others entries')) :
      SameButHeads (.map entries) (.map entries')

/-- Two lists have the same images if they have the same length and each two members do. -/
theorem map_eq_map_iff {α β : Type} {f : α → β} {R : α → α → Prop} {xs ys : List α}
    (same : ∀ x ∈ xs, ∀ y, f x = f y ↔ R x y) : xs.map f = ys.map f ↔ List.Forall₂ R xs ys := by
  induction xs generalizing ys with
  | nil => cases ys <;> simp
  | cons x rest ih =>
      cases ys with
      | nil => simp
      | cons y others =>
          rw [List.map_cons, List.map_cons, List.cons.injEq, List.forall₂_cons,
            same x List.mem_cons_self, ih fun z member => same z (List.mem_cons_of_mem _ member)]

theorem sameEntry_iff {R : Value → Value → Prop} {entry entry' : Value × Value}
    (same : entry.2.ordered = entry'.2.ordered ↔ R entry.2 entry'.2) :
    (entry.1, entry.2.ordered) = (entry'.1, entry'.2.ordered) ↔ SameEntry R entry entry' := by
  obtain ⟨key, v⟩ := entry
  obtain ⟨key', w⟩ := entry'
  rw [Prod.mk.injEq, same]
  constructor
  · rintro ⟨rfl, values⟩
    exact .entry _ values
  · rintro ⟨_, values⟩
    exact ⟨rfl, values⟩

theorem under_map_ordered (key : String) (entries : Entries) :
    KeyOrder.under key (entries.map fun entry => (entry.1, entry.2.ordered)) =
      (KeyOrder.under key entries).map fun entry => (entry.1, entry.2.ordered) :=
  List.filter_map ..

theorem others_map_ordered (entries : Entries) :
    KeyOrder.others (entries.map fun entry => (entry.1, entry.2.ordered)) =
      (KeyOrder.others entries).map fun entry => (entry.1, entry.2.ordered) :=
  List.filter_map ..

/-- A scalar is in customary order, and nothing else becomes it. -/
theorem eq_ordered_iff {v w : Value} (scalar : v.IsScalar) : v = w.ordered ↔ v = w := by
  cases w with
  | list items =>
      rw [ordered_list]
      constructor <;> (rintro rfl; cases scalar)
  | map entries =>
      rw [ordered_map]
      constructor <;> (rintro rfl; cases scalar)
  | _ => exact Iff.rfl

theorem sameButHeads_iff {v w : Value} (scalar : v.IsScalar) : SameButHeads v w ↔ v = w := by
  constructor
  · rintro (_ | _)
    · rfl
    · cases scalar
    · cases scalar
  · rintro rfl
    exact .scalar v scalar

/-- In customary order two values are the same exactly if they differ in nothing but the places of
head keys. -/
theorem ordered_eq_iff {v w : Value} : v.ordered = w.ordered ↔ SameButHeads v w := by
  induction v using byItems generalizing w with
  | plain v plain =>
      have scalar := isScalar_of_isPlain plain
      rw [ordered_scalar scalar, eq_ordered_iff scalar, sameButHeads_iff scalar]
  | text s =>
      have scalar : (text s).IsScalar := trivial
      rw [ordered_scalar scalar, eq_ordered_iff scalar, sameButHeads_iff scalar]
  | list items each _ =>
      rw [ordered_list]
      cases w with
      | list items' =>
          rw [ordered_list, list.injEq, map_eq_map_iff fun item member _ => each item member]
          constructor
          · exact .list
          · rintro (⟨_, ⟨⟩⟩ | each)
            exact each
      | map entries' =>
          rw [ordered_map]
          constructor <;> nofun
      | _ => constructor <;> nofun
  | map entries each =>
      have parts (entries' : Entries) {some : Entries} (sub : some ⊆ entries) :
          (some.map fun entry => (entry.1, entry.2.ordered)) =
              (entries'.map fun entry => (entry.1, entry.2.ordered)) ↔
            List.Forall₂ (SameEntry SameButHeads) some entries' :=
        map_eq_map_iff fun entry member _ => sameEntry_iff (each entry (sub member))
      rw [ordered_map]
      cases w with
      | map entries' =>
          rw [ordered_map, map.injEq, KeyOrder.headFirst_eq_iff]
          simp only [under_map_ordered, others_map_ordered]
          have heads (key : String) :=
            parts (KeyOrder.under key entries') (KeyOrder.under_subset key entries)
          simp only [heads, parts _ (KeyOrder.others_subset entries)]
          constructor
          · exact fun ⟨heads, others⟩ => .map heads others
          · rintro (⟨_, ⟨⟩⟩ | _ | ⟨heads, others⟩)
            exact ⟨heads, others⟩
      | list items' =>
          rw [ordered_list]
          constructor <;> nofun
      | _ => constructor <;> nofun

/-- Customary order leaves lists and what is neither list nor mapping as they are, and puts the
parts of both in order. A mapping keeps its entries; where its keys are different, those of the head
keys that it has come first, in their own order, and then all others in the order that they had.
Doing it again changes nothing, and values are written as one ordered value exactly if they differ
in nothing but the places of head keys. -/
theorem ordered_canonical :
    (∀ items, (list items).ordered = .list (items.map ordered)) ∧
    (∀ entries, ∃ entries', (map entries).ordered = .map entries' ∧
      entries'.Perm (entries.map fun entry => (entry.1, entry.2.ordered)) ∧
      ((entries.map Prod.fst).Nodup → entries'.map Prod.fst =
        (KeyOrder.headKeys.filter fun key =>
            entries.any fun entry => entry.1.isTextOf key).map .text ++
          (entries.map Prod.fst).filter fun key => !KeyOrder.isHead key)) ∧
    (∀ v : Value, v.IsScalar → v.ordered = v) ∧
    (∀ v : Value, v.ordered.ordered = v.ordered) ∧
    (∀ v w : Value, v.ordered = w.ordered ↔ SameButHeads v w) ∧
    ∀ v w : Value, SameButHeads v w → Conversion.yamlText v = Conversion.yamlText w := by
  refine ⟨ordered_list, fun entries => ?_, fun v => ordered_scalar, ordered_ordered,
    fun v w => ordered_eq_iff, fun v w same => ?_⟩
  · refine ⟨_, ordered_map entries, KeyOrder.headFirst_perm _, fun distinct => ?_⟩
    rw [KeyOrder.headFirst_map, List.map_map]
    exact KeyOrder.map_fst_headFirst distinct
  · rw [Conversion.yamlText, Conversion.yamlText, ordered_eq_iff.2 same]

/-- Head keys between others, also in the items of a list, and a key that is no text. -/
theorem ordered_canonical_nested :
    let entries : Entries := [(.int 1, .null), (.text "spec", .list [ofFields
      [("name", .text "web"), ("kind", .text "Pod")]]), (.text "apiVersion", .text "v1")]
    let entries' : Entries := [(.text "apiVersion", .text "v1"), (.int 1, .null),
      (.text "spec", .list [ofFields [("kind", .text "Pod"), ("name", .text "web")]])]
    (entries.map Prod.fst).Nodup ∧ IsScalar (.int 1) ∧ SameButHeads (.map entries) (.map entries') ∧
      Conversion.yamlText (.map entries) = Conversion.yamlText (.map entries') ∧
      ∃ ordered', (map entries).ordered = .map ordered' ∧
        ordered'.map Prod.fst = [.text "apiVersion", .text "spec", .int 1] := by
  intro entries entries'
  have distinct : (entries.map Prod.fst).Nodup := by simp [entries]
  obtain ⟨_, mapping, _, _, same, written⟩ := ordered_canonical
  have alike : SameButHeads (.map entries) (.map entries') := (same _ _).1 rfl
  obtain ⟨ordered', isOrdered, _, keys⟩ := mapping entries
  exact ⟨distinct, trivial, alike, written _ _ alike, ordered', isOrdered, keys distinct⟩

end Value

end TypedManifests
