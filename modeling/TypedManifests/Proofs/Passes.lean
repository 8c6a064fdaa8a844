/-
Module: TypedManifests.Proofs.Passes
Purpose: What passes do to a type. Any sequence of passes keeps labels apart and leaves a record a
  record; with an index of some sample it also keeps a type printable, since the names of keyed
  lists may be labels. The printed result of a successful run therefore denotes the result.
Main exports: splitLists_records, Labelwise, uniqueLabels_apply, printable_apply, Denotable,
  Denotable.applyAll, text_denotes_result
-/
import TypedManifests.Proofs.Parts
import TypedManifests.Proofs.RoundTrip
import TypedManifests.Proofs.SampleWalk
import TypedManifests.Strengthening

namespace TypedManifests

open TypedManifests.TypeExpr

/-!
### The two passes by the parts of a type
-/

namespace ImageConvention

/-- A type is replaced if it is text, by the type of a reference's parts, or it stays. -/
theorem retype_cases (table : List ImageConvention) (label : String) (t : TypeExpr) :
    retype table label t = t ∨ ∃ c : ImageConvention, retype table label t = c.replacement := by
  rw [retype]
  split
  · next c _ => exact Or.inr ⟨c, rfl⟩
  · exact Or.inl rfl

variable (table : List ImageConvention)

theorem retype_of_ne (label : String) {t : TypeExpr} (other : t ≠ .text) :
    retype table label t = t := by
  have none : table.find? (·.applies label t) = none := by
    rw [List.find?_eq_none]
    simp [applies, other]
  rw [retype, none]

@[simp] theorem transform_scalar (name : String) :
    transform (retypeRecord table) (.scalar name) = .scalar name := by
  simp [transform, retypeRecord]

@[simp] theorem transform_optional (t : TypeExpr) :
    transform (retypeRecord table) (.optional t) =
      .optional (transform (retypeRecord table) t) := by
  simp [transform, retypeRecord]

@[simp] theorem transform_list (t : TypeExpr) :
    transform (retypeRecord table) (.list t) = .list (transform (retypeRecord table) t) := by
  simp [transform, retypeRecord]

/-- Each field is rewritten inside, and then retyped as a whole. -/
theorem transform_fields (fields : Fields) :
    transform (retypeRecord table) (.record fields) =
      .record (fields.map fun field =>
        (field.1, retype table field.1 (transform (retypeRecord table) field.2))) := by
  simp [transform_record, retypeRecord]

end ImageConvention

namespace Pass

variable (index : SampleIndex) (keyFields : List String)

theorem splitListsFields_eq_map (path : LabelPath) : ∀ fields : Fields,
    splitListsFields index keyFields none path fields =
      fields.map fun field => (field.1, splitLists index keyFields (path ++ [field.1]) field.2)
  | [] => by rw [splitListsFields, List.map_nil]
  | (label, t) :: rest => by
      simp [splitListsFields, splitListsFields_eq_map path rest]

theorem splitListsFields_dropped (label : String) (path : LabelPath) : ∀ fields : Fields,
    splitListsFields index keyFields (some label) path fields =
      splitListsFields index keyFields none path (without fields label)
  | [] => rfl
  | (l, t) :: rest => by
      have others := splitListsFields_dropped label path rest
      rw [splitListsFields, others]
      by_cases drop : l = label
      · simp [without, drop]
      · simp [without, drop, Ne.symm drop, splitListsFields]

theorem splitLists_record (path : LabelPath) (fields : Fields) :
    splitLists index keyFields path (.record fields) =
      .record (fields.map fun field =>
        (field.1, splitLists index keyFields (path ++ [field.1]) field.2)) := by
  rw [splitLists, splitListsFields_eq_map]

/-- A list of records that is split becomes a record whose parts are the element without its key
field, each walked at the path of its own name. -/
theorem splitLists_records {path : LabelPath} {element : Fields} {keyed : KeyedList}
    (taken : splitting? index keyFields path element = some keyed) :
    splitLists index keyFields path (.list (.record element)) =
      .record (keyed.names.map fun name =>
        (name, splitLists index keyFields (path ++ [name])
          (.record (without element keyed.field)))) := by
  simp only [splitLists, taken, splitListsFields_dropped]

theorem splitLists_unsplit {path : LabelPath} {element : Fields}
    (refused : splitting? index keyFields path element = none) :
    splitLists index keyFields path (.list (.record element)) = .list (.record element) := by
  rw [splitLists, refused]

theorem splitLists_list (path : LabelPath) {element : TypeExpr}
    (other : ∀ fields, element ≠ .record fields) :
    splitLists index keyFields path (.list element) = .list element := by
  cases element with
  | record fields => exact absurd rfl (other fields)
  | _ => rw [splitLists]; simp

variable {index keyFields}

/-- What is known of the names by which a list is split. -/
theorem splitting?_eq_some {path : LabelPath} {element : Fields} {keyed : KeyedList} :
    splitting? index keyFields path element = some keyed ↔
      index.lookup path = some keyed ∧ keyed.field ∈ keyFields ∧
        field? element keyed.field = some .text ∧ keyed.names ≠ [] ∧ keyed.names.Nodup := by
  rw [splitting?, Option.filter_eq_some_iff]
  simp [and_assoc]

end Pass

/-!
### What passes preserve

Both passes build records only with labels that they found in the type, with the names of a keyed
list, or as the type of an image reference. A property that looks at nothing but the labels of each
record is preserved if it holds of the latter two. The induction on the type is made once for all
such properties.
-/

/-- The property `P` of types asks `ok` of the labels of every record in the type, and nothing else
of records, optional values and lists. -/
structure Labelwise (ok : List String → Prop) (P : TypeExpr → Prop) : Prop where
  optional : ∀ {t : TypeExpr}, P (.optional t) ↔ P t
  list : ∀ {t : TypeExpr}, P (.list t) ↔ P t
  record : ∀ {fields : Fields},
    P (.record fields) ↔ ok (labels fields) ∧ ∀ field ∈ fields, P field.2
  sublist : ∀ {some all : List String}, some.Sublist all → ok all → ok some

namespace Labelwise

variable {ok : List String → Prop} {P : TypeExpr → Prop}

theorem without (labelwise : Labelwise ok P) {fields : Fields} (label : String)
    (holds : P (.record fields)) : P (.record (TypeExpr.without fields label)) := by
  rw [labelwise.record] at holds ⊢
  refine ⟨labelwise.sublist (List.filter_sublist.map _) holds.1, fun field member => ?_⟩
  exact holds.2 field (List.mem_filter.1 member).1

theorem splitLists (labelwise : Labelwise ok P) {index : SampleIndex} {keyFields : List String}
    (names : ∀ {path : LabelPath} {element : Fields} {keyed : KeyedList},
      Pass.splitting? index keyFields path element = some keyed → ok keyed.names)
    (t : TypeExpr) : ∀ path, P t → P (Pass.splitLists index keyFields path t) := by
  induction t using byLists with
  | scalar name =>
      intro path holds
      rw [Pass.splitLists]
      exact holds
  | optional inner ih =>
      intro path holds
      rw [Pass.splitLists, labelwise.optional]
      exact ih path (labelwise.optional.1 holds)
  | list element other _ =>
      intro path holds
      rw [Pass.splitLists_list index keyFields path other]
      exact holds
  | records element ih =>
      intro path holds
      cases taken : Pass.splitting? index keyFields path element with
      | none =>
          rw [Pass.splitLists_unsplit index keyFields taken]
          exact holds
      | some keyed =>
          have rest := labelwise.without keyed.field (labelwise.list.1 holds)
          rw [Pass.splitLists_records index keyFields taken, labelwise.record]
          refine ⟨?_, fun field listed => ?_⟩
          · rw [labels_names]
            exact names taken
          · obtain ⟨name, _, rfl⟩ := List.mem_map.1 listed
            exact ih _ (List.filter_subset_self element) (path ++ [name]) rest
  | record fields ih =>
      intro path holds
      rw [labelwise.record] at holds
      rw [Pass.splitLists_record, labelwise.record, labels_map]
      refine ⟨holds.1, fun field listed => ?_⟩
      obtain ⟨given, member, rfl⟩ := List.mem_map.1 listed
      exact ih given member _ (holds.2 given member)

theorem retype (labelwise : Labelwise ok P) (table : List ImageConvention)
    (replacement : ∀ c : ImageConvention, P c.replacement) (t : TypeExpr) :
    P t → P (transform (ImageConvention.retypeRecord table) t) := by
  induction t with
  | scalar name => simp
  | optional inner ih =>
      intro holds
      rw [ImageConvention.transform_optional, labelwise.optional]
      exact ih (labelwise.optional.1 holds)
  | list element ih =>
      intro holds
      rw [ImageConvention.transform_list, labelwise.list]
      exact ih (labelwise.list.1 holds)
  | record fields ih =>
      intro holds
      rw [labelwise.record] at holds
      rw [ImageConvention.transform_fields, labelwise.record,
        labels_map fun field => ImageConvention.retype table field.1 _]
      refine ⟨holds.1, fun field listed => ?_⟩
      obtain ⟨given, member, rfl⟩ := List.mem_map.1 listed
      have inside := ih given member (holds.2 given member)
      rcases ImageConvention.retype_cases table given.1
        (transform (ImageConvention.retypeRecord table) given.2) with same | ⟨c, replaced⟩
      · simpa only [same] using inside
      · simpa only [replaced] using replacement c

end Labelwise

theorem labelwise_uniqueLabels : Labelwise List.Nodup UniqueLabels where
  optional := Iff.rfl
  list := Iff.rfl
  record := uniqueLabels_record
  sublist := fun sub nodup => nodup.sublist sub

theorem mem_namesFields {name : String} : ∀ fields : Fields,
    name ∈ namesFields fields ↔ ∃ field ∈ fields, name = field.1 ∨ name ∈ field.2.names
  | [] => by simp [namesFields]
  | (_, _) :: rest => by
      simp [namesFields, mem_namesFields rest, or_assoc]

theorem printable_record {fields : Fields} :
    (record fields).Printable ↔
      (∀ label ∈ labels fields, Quotable label) ∧ ∀ field ∈ fields, field.2.Printable := by
  rw [Printable, names]
  constructor
  · refine fun printable => ⟨fun label listed => ?_, fun field member name inside => ?_⟩
    · obtain ⟨field, member, rfl⟩ := List.mem_map.1 listed
      exact printable _ ((mem_namesFields fields).2 ⟨field, member, Or.inl rfl⟩)
    · exact printable name ((mem_namesFields fields).2 ⟨field, member, Or.inr inside⟩)
  · rintro ⟨quotable, printable⟩ name inside
    obtain ⟨field, member, rfl | inside⟩ := (mem_namesFields fields).1 inside
    · exact quotable _ (List.mem_map_of_mem member)
    · exact printable field member name inside

theorem labelwise_printable :
    Labelwise (fun labels => ∀ label ∈ labels, Quotable label) Printable where
  optional := Iff.rfl
  list := Iff.rfl
  record := printable_record
  sublist := fun sub quotable label member => quotable label (sub.subset member)

/-- The names of a keyed list have no characters that may not stand between backticks. -/
theorem quotable_of_isName {name : String} (usable : KeyedList.isName name = true) :
    Quotable name := by
  simp only [KeyedList.isName, Bool.and_eq_true, List.all_eq_true] at usable
  refine ⟨fun tick => ?_, fun lineFeed => ?_⟩
  · exact absurd (usable.2 _ tick) (by decide)
  · exact absurd (usable.2 _ lineFeed) (by decide)

theorem uniqueLabels_imageType (withDigest : Bool) :
    (ImageReference.type withDigest).UniqueLabels := by
  cases withDigest <;>
    simp [ImageReference.type, UniqueLabels, UniqueLabelsFields, TypeExpr.text]

theorem printable_imageType (withDigest : Bool) : (ImageReference.type withDigest).Printable := by
  unfold Printable
  cases withDigest <;> decide

namespace Pass

/-- Every pass keeps the labels of each record apart, whatever the index says. -/
theorem uniqueLabels_apply (pass : Pass) {t : TypeExpr} (unique : t.UniqueLabels) :
    (pass.apply t).UniqueLabels := by
  cases pass with
  | listToRecord index keyFields =>
      refine labelwise_uniqueLabels.splitLists (fun taken => ?_) t [] unique
      exact (splitting?_eq_some.1 taken).2.2.2.2
  | conventions table =>
      exact labelwise_uniqueLabels.retype table (fun c => uniqueLabels_imageType c.withDigest) t
        unique

/-- Every pass leaves a record a record. -/
theorem apply_record (pass : Pass) (fields : Fields) :
    ∃ fields', pass.apply (.record fields) = .record fields' := by
  cases pass with
  | listToRecord index keyFields => exact ⟨_, splitLists_record index keyFields [] fields⟩
  | conventions table => exact ⟨_, ImageConvention.transform_fields table fields⟩

/-- The pass knows the lists of the sample, if it splits lists. -/
inductive OfSample (sample : Value) : Pass → Prop
  | lists (indexed keyFields : List String) :
      OfSample sample (.listToRecord (.ofValue indexed sample) keyFields)
  | conventions (table : List ImageConvention) : OfSample sample (.conventions table)

/-- The names by which a sample splits lists may be labels. -/
theorem printable_apply {sample : Value} {pass : Pass} (ofSample : OfSample sample pass)
    {t : TypeExpr} (printable : t.Printable) : (pass.apply t).Printable := by
  cases ofSample with
  | lists indexed keyFields =>
      refine labelwise_printable.splitLists (fun taken => ?_) t [] printable
      have found := (splitting?_eq_some.1 taken).1
      rw [SampleIndex.lookup_ofValue] at found
      obtain ⟨items, isKeyed⟩ := SampleIndex.of?_of_keyedAt indexed sample found
      exact fun name member => quotable_of_isName (KeyedList.isName_of_of? isKeyed name member)
  | conventions table =>
      exact labelwise_printable.retype table (fun c => printable_imageType c.withDigest) t printable

end Pass

/-!
### Runs

A well-formed printable record is the type that its text denotes. A parsed record type is one, each
pass keeps it one, and by induction over the passes the result of a run is one.
-/

/-- A type that its own text denotes: a well-formed printable record. -/
structure Denotable (t : TypeExpr) : Prop where
  isRecord : ∃ fields, t = .record fields
  unique : t.UniqueLabels
  printable : t.Printable

theorem denotable_of_parseRecord {source : String} {t : TypeExpr}
    (denotes : parseRecord source = .ok t) : Denotable t := by
  obtain ⟨anywhere, isRecord⟩ := parse_of_parseRecord denotes
  obtain ⟨unique, printable⟩ := uniqueLabels_and_printable_of_parse anywhere
  exact ⟨isRecord, unique, printable⟩

theorem Denotable.apply {sample : Value} {pass : Pass} (ofSample : pass.OfSample sample)
    {t : TypeExpr} (denotable : Denotable t) : Denotable (pass.apply t) := by
  obtain ⟨⟨fields, rfl⟩, unique, printable⟩ := denotable
  exact ⟨pass.apply_record fields, pass.uniqueLabels_apply unique,
    Pass.printable_apply ofSample printable⟩

theorem Denotable.applyAll {sample : Value} : ∀ {passes : List Pass} {t : TypeExpr},
    (∀ pass ∈ passes, pass.OfSample sample) → Denotable t → Denotable (Pass.applyAll passes t).1
  | [], _, _, denotable => denotable
  | pass :: rest, t, ofSample, denotable => by
      have first := denotable.apply (ofSample pass List.mem_cons_self)
      rw [Pass.applyAll]
      exact first.applyAll fun other member => ofSample other (List.mem_cons_of_mem _ member)

theorem Denotable.parseRecord_print {t : TypeExpr} (denotable : Denotable t) (layout : Layout)
    (level : Nat) : parseRecord (print layout level t) = .ok t := by
  obtain ⟨⟨fields, rfl⟩, unique, printable⟩ := denotable
  obtain ⟨rest, brace⟩ := print_record layout level fields
  rw [parseRecord_eq_parse brace]
  exact parse_print unique printable layout level

namespace Strengthening

/-- The text of a successful run denotes its result, in either layout, for all passes of one sample
in any order and number. -/
theorem text_denotes_result {sample : Value} {passes : List Pass} {layout : Layout}
    {source : String} {s : Strengthening} (ofSample : ∀ pass ∈ passes, pass.OfSample sample)
    (run : ofText passes layout source = .ok s) : parseRecord s.text = .ok s.result := by
  rw [ofText] at run
  cases given : parseRecord source with
  | error e =>
      rw [given] at run
      cases run
  | ok t =>
      rw [given] at run
      cases run
      have result := (denotable_of_parseRecord given).applyAll ofSample
      exact result.parseRecord_print layout 0

/-- Names that must stand in backticks, and a pass that is run again. -/
theorem text_denotes_result_quoted :
    let item := fun name : String => Value.ofFields [("name", .text name), ("image", .text "a:1")]
    let sample := Value.ofFields [("pods", .list [item "web app", item "List"])]
    let lists := Pass.listToRecord (.ofValue ["id", "name"] sample) ["name"]
    let passes := [lists, .conventions [⟨["image"], true⟩], lists]
    let given : TypeExpr := .record [("pods", .list (.record [("name", .text), ("image", .text)]))]
    let pod : TypeExpr := .record [("image", ImageReference.type true)]
    let result : TypeExpr := .record [("pods", .record [("web app", pod), ("List", pod)])]
    let s : Strengthening :=
      ⟨given, result, print .block 0 result, ["list-to-record", "image-reference"]⟩
    (∀ pass ∈ passes, pass.OfSample sample) ∧
      ofText passes .block (print .oneLine 0 given) = .ok s ∧
      parseRecord s.text = .ok s.result := by
  intro item sample lists passes given pod result s
  have ofSample : ∀ pass ∈ passes, pass.OfSample sample := by
    intro pass member
    simp only [passes, List.mem_cons, List.not_mem_nil, or_false] at member
    rcases member with rfl | rfl | rfl
    · exact .lists _ _
    · exact .conventions _
    · exact .lists _ _
  have denotable : Denotable given := by
    refine ⟨⟨_, rfl⟩, ?_, ?_⟩
    · simp [given, UniqueLabels, UniqueLabelsFields, TypeExpr.text]
    · unfold Printable
      decide
  have ran : Pass.applyAll passes given = (s.result, s.applied) := by decide
  have run : ofText passes .block (print .oneLine 0 given) = .ok s := by
    rw [ofText, denotable.parseRecord_print]
    simp only [bind, Except.bind, ran]
    rfl
  exact ⟨ofSample, run, text_denotes_result ofSample run⟩

end Strengthening

end TypedManifests
