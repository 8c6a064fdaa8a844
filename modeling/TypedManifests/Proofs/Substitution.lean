/-
Module: TypedManifests.Proofs.Substitution
Purpose: The conventions rewrite a type from its leaves to its root, but what they do is one
  substitution: each text in a field that some convention covers is replaced, all at once, and
  nothing that was put in is looked at again. Unless a key field is covered, it makes no difference
  whether lists are split before or after.
Main exports: substitute, transform_eq_substitute, map_offered, apply_eq_substitute,
  splitLists_transform_eq, passes_commute_iff
-/
import TypedManifests.Proofs.Agreement
import TypedManifests.Proofs.HonestReport

namespace TypedManifests

open TypedManifests.TypeExpr

/-!
### The substitution
-/

namespace ImageConvention

/-- The type that stands for a text under the label: that of the first convention which lists it. -/
def replacement? (table : List ImageConvention) (label : String) : Option TypeExpr :=
  (table.find? fun c => label ∈ c.labels).map replacement

mutual

/-- The type in which the texts of its fields are replaced by the conventions that list their
labels. What replaces a text is taken as it is. -/
def substitute (table : List ImageConvention) : TypeExpr → TypeExpr
  | .scalar name => .scalar name
  | .optional t => .optional (substitute table t)
  | .list t => .list (substitute table t)
  | .record fields => .record (substituteFields table fields)

def substituteFields (table : List ImageConvention) :
    List (String × TypeExpr) → List (String × TypeExpr)
  | [] => []
  | (label, t) :: rest =>
    (label, if t = .text then (replacement? table label).getD .text else substitute table t) ::
      substituteFields table rest

end

variable (table : List ImageConvention)

theorem substituteFields_eq_map : ∀ fields : Fields,
    substituteFields table fields = fields.map fun field =>
      (field.1, if field.2 = .text then (replacement? table field.1).getD .text
        else substitute table field.2)
  | [] => by rw [substituteFields, List.map_nil]
  | (label, t) :: rest => by
      rw [substituteFields, substituteFields_eq_map rest, List.map_cons]

theorem transform_text : transform (retypeRecord table) .text = .text :=
  transform_scalar table "Text"

/-- Retyping a field looks for a convention only if the field is text. -/
theorem retype_eq (label : String) (t : TypeExpr) :
    retype table label t = if t = .text then (replacement? table label).getD .text else t := by
  split
  · next isText =>
    subst isText
    have covers : (table.find? fun c => c.applies label .text) =
        table.find? fun c => label ∈ c.labels := by
      simp [applies]
    rw [retype, covers, replacement?]
    cases table.find? fun c => label ∈ c.labels <;> rfl
  · next other => exact retype_of_ne table label other

/-- Rewriting from the leaves to the root is the substitution. A field is text after its parts were
rewritten if and only if it was text before, so the rule sees in each record of the type what the
substitution sees. -/
theorem transform_eq_substitute (t : TypeExpr) :
    transform (retypeRecord table) t = substitute table t := by
  induction t with
  | scalar name => rw [transform_scalar, substitute]
  | optional inner ih => rw [transform_optional, substitute, ih]
  | list element ih => rw [transform_list, substitute, ih]
  | record fields ih =>
      rw [transform_fields, substitute, substituteFields_eq_map, TypeExpr.record.injEq]
      refine List.map_congr_left fun field member => congrArg (Prod.mk field.1) ?_
      rw [retype_eq, ← ih field member]
      by_cases isText : field.2 = .text
      · rw [isText, transform_text]
      · have other : transform (retypeRecord table) field.2 ≠ .text :=
          fun same => isText (eq_text_of_transform table same)
        rw [if_neg other, if_neg isText]

end ImageConvention

/-!
### What is offered

The rule is offered one node for each node of the given type, and none of what it has put in itself.
-/

namespace TypeExpr

mutual

/-- The nodes of a type, the parts of a node before the node. -/
def nodes : TypeExpr → List TypeExpr
  | .scalar name => [.scalar name]
  | .optional t => nodes t ++ [.optional t]
  | .list t => nodes t ++ [.list t]
  | .record fields => nodesFields fields ++ [.record fields]

def nodesFields : List (String × TypeExpr) → List TypeExpr
  | [] => []
  | (_, t) :: rest => nodes t ++ nodesFields rest

end

mutual

/-- The rule makes of the nodes that it is offered what becomes of the nodes of the type, one by
one. -/
theorem map_offered (rule : TypeExpr → TypeExpr) : ∀ t : TypeExpr,
    (offered rule t).map rule = (nodes t).map (transform rule)
  | .scalar name => by simp [offered, nodes, transform]
  | .optional t => by simp [offered, nodes, transform, map_offered rule t]
  | .list t => by simp [offered, nodes, transform, map_offered rule t]
  | .record fields => by simp [offered, nodes, transform, map_offeredFields rule fields]

theorem map_offeredFields (rule : TypeExpr → TypeExpr) : ∀ fields : Fields,
    (offeredFields rule fields).map rule = (nodesFields fields).map (transform rule)
  | [] => by simp [offeredFields, nodesFields]
  | (_, t) :: rest => by
      simp [offeredFields, nodesFields, map_offered rule t, map_offeredFields rule rest]

end

end TypeExpr

namespace Pass

open ImageConvention

/-- The pass replaces the covered texts of a type at once and leaves the rest as it is, and a run
rewrites the nodes of the given type, each of them once, and nothing else. -/
theorem apply_eq_substitute (table : List ImageConvention) (t : TypeExpr) :
    (Pass.conventions table).apply t = substitute table t ∧
      (offered (retypeRecord table) t).map (retypeRecord table) =
        (nodes t).map (substitute table) := by
  have same : transform (retypeRecord table) = substitute table :=
    funext (transform_eq_substitute table)
  refine ⟨transform_eq_substitute table t, ?_⟩
  rw [map_offered, same]

/-- A field for the repository that is itself covered: the one in the given type is replaced, the
one that comes with a replacement is not. -/
example :
    let table : List ImageConvention := [⟨["image"], false⟩, ⟨["image", "repository"], true⟩]
    substitute table (.record [("image", .text), ("repository", .text), ("name", .text)]) =
      .record [("image", ImageReference.type false), ("repository", ImageReference.type true),
        ("name", .text)] := by
  decide

/-!
### The order of the two passes

Splitting lists turns lists into records and the conventions turn texts into records. The one looks
at the key field of an element, which has to be text, and the other at the labels of texts.
-/

theorem eq_text_of_splitLists {index : SampleIndex} {keyFields : List String} {path : LabelPath}
    {t : TypeExpr} (isText : splitLists index keyFields path t = .text) : t = .text := by
  have up := refines_splitLists index keyFields t path
  rw [isText, TypeExpr.text] at up
  cases up
  rfl

/-- Retyping a field and splitting the lists in it do not compete: what is text has no lists, and
neither has what replaces it. -/
theorem splitLists_retype (index : SampleIndex) (keyFields : List String) (path : LabelPath)
    (table : List ImageConvention) (label : String) (t : TypeExpr) :
    splitLists index keyFields path (retype table label t) =
      retype table label (splitLists index keyFields path t) := by
  by_cases isText : t = .text
  · subst isText
    have leaf : splitLists index keyFields path .text = .text := by rw [TypeExpr.text, splitLists]
    rw [leaf]
    rcases retype_cases table label .text with same | ⟨c, replaced⟩
    · rw [same, leaf]
    · rw [replaced]
      exact splitLists_imageType index keyFields path c.withDigest
  · have other : splitLists index keyFields path t ≠ .text :=
      fun same => isText (eq_text_of_splitLists same)
    rw [retype_of_ne table label isText, retype_of_ne table label other]

theorem field?_transform {table : List ImageConvention} {label : String}
    (uncovered : ∀ c ∈ table, label ∉ c.labels) {fields : Fields}
    (isText : field? fields label = some .text) :
    field? (fields.map fun field =>
      (field.1, retype table field.1 (transform (retypeRecord table) field.2))) label =
        some .text := by
  obtain ⟨⟨name, t⟩, found, rfl⟩ := Option.map_eq_some_iff.1 isText
  have here := List.find?_some found
  obtain rfl : name = label := by simpa using here
  have none : table.find? (fun c => name ∈ c.labels) = none := by
    rw [List.find?_eq_none]
    simpa using uncovered
  rw [field?, List.find?_map, Option.map_map, Option.map_eq_some_iff]
  refine ⟨_, found, ?_⟩
  simp [transform_text, retype_eq, replacement?, none]

/-- If no key field is covered, a list is split after the conventions as it was before. -/
theorem splitting?_transform {index : SampleIndex} {keyFields : List String}
    {table : List ImageConvention} (uncovered : ∀ c ∈ table, ∀ label ∈ c.labels, label ∉ keyFields)
    {path : LabelPath} {element : Fields} {keyed : KeyedList}
    (taken : splitting? index keyFields path element = some keyed) :
    splitting? index keyFields path (element.map fun field =>
      (field.1, retype table field.1 (transform (retypeRecord table) field.2))) = some keyed := by
  obtain ⟨known, isKey, isText, named⟩ := splitting?_eq_some.1 taken
  have spared : ∀ c ∈ table, keyed.field ∉ c.labels :=
    fun c member covered => uncovered c member keyed.field covered isKey
  exact splitting?_eq_some.2 ⟨known, isKey, field?_transform spared isText, named⟩

/-- If no key field is covered, splitting the lists of a retyped type gives the strengthened type.
The induction is on the type, with the cases of the splitting. -/
theorem splitLists_transform_eq (r : Reshaping) (index : SampleIndex)
    (uncovered : ∀ c ∈ r.conventions, ∀ label ∈ c.labels, label ∉ r.keyFields) (t : TypeExpr) :
    ∀ path, splitLists index r.keyFields path (transform (retypeRecord r.conventions) t) =
      strengthened r index path t := by
  induction t using byLists with
  | scalar name =>
      intro path
      rw [transform_scalar, splitLists, strengthened_scalar]
  | optional inner ih =>
      intro path
      rw [transform_optional, splitLists, ih path, strengthened_optional]
  | list element other _ =>
      intro path
      have other' : ∀ fields, transform (retypeRecord r.conventions) element ≠ .record fields := by
        intro fields isRecord
        obtain ⟨fields, eq⟩ := exists_record_of_transform r.conventions isRecord
        exact other fields eq
      rw [strengthened, splitLists_list index r.keyFields path other, transform_list,
        splitLists_list index r.keyFields path other']
  | records element ih =>
      intro path
      cases taken : splitting? index r.keyFields path element with
      | none =>
          rw [strengthened, splitLists_unsplit index r.keyFields taken, transform_list,
            transform_fields, splitLists_unsplit index r.keyFields (splitting?_of_transform taken)]
      | some keyed =>
          rw [transform_list, transform_fields, strengthened_records r index path taken,
            splitLists_records index r.keyFields (splitting?_transform uncovered taken),
            TypeExpr.record.injEq]
          refine List.map_congr_left fun name _ => congrArg (Prod.mk name) ?_
          have rest := ih (TypeExpr.without element keyed.field) (List.filter_subset_self element)
            (path ++ [name])
          rw [transform_fields] at rest
          rw [← rest, TypeExpr.without, List.filter_map]
          rfl
  | record fields ih =>
      intro path
      rw [transform_fields, splitLists_record, strengthened_record, List.map_map,
        TypeExpr.record.injEq]
      refine List.map_congr_left fun field member => congrArg (Prod.mk field.1) ?_
      rw [← ih field member (path ++ [field.1])]
      exact splitLists_retype index r.keyFields _ r.conventions field.1 _

/-- A covered text has become the record of an image reference. -/
theorem retype_of_covered {table : List ImageConvention} {c : ImageConvention} (member : c ∈ table)
    {label : String} (covered : label ∈ c.labels) :
    ∃ c' : ImageConvention, retype table label .text = c'.replacement := by
  have found : (table.find? fun c => c.applies label .text).isSome = true := by
    rw [List.find?_isSome]
    exact ⟨c, member, by simp [applies, covered]⟩
  obtain ⟨c', found⟩ := Option.isSome_iff_exists.1 found
  exact ⟨c', by rw [retype, found]⟩

/-- Where a key field is covered, a list with no other field is split only before the conventions:
after them its items have no text for their names any more. -/
theorem exists_order_matters {keyFields : List String} {table : List ImageConvention}
    {c : ImageConvention} (member : c ∈ table) {label : String} (covered : label ∈ c.labels)
    (isKey : label ∈ keyFields) :
    ∃ (index : SampleIndex) (t : TypeExpr), t.UniqueLabels ∧
      (Pass.conventions table).apply ((Pass.listToRecord index keyFields).apply t) ≠
        (Pass.listToRecord index keyFields).apply ((Pass.conventions table).apply t) := by
  let index : SampleIndex := ⟨[([], ⟨label, ["item"]⟩)], []⟩
  have known : index.lookup [] = some ⟨label, ["item"]⟩ := rfl
  have taken : splitting? index keyFields [] [(label, .text)] = some ⟨label, ["item"]⟩ :=
    splitting?_eq_some.2 ⟨known, isKey, by simp [field?], by simp, by simp⟩
  obtain ⟨c', replaced⟩ := retype_of_covered member covered
  have refused : splitting? index keyFields [] [(label, c'.replacement)] = none := by
    refine Option.eq_none_iff_forall_ne_some.2 fun keyed again => ?_
    obtain ⟨found, _, isText, _⟩ := splitting?_eq_some.1 again
    obtain rfl := Option.some.inj (known.symm.trans found)
    simp [field?, replacement, ImageReference.type, TypeExpr.text] at isText
  have retyped : transform (retypeRecord table) (.record [(label, .text)]) =
      .record [(label, c'.replacement)] := by
    simp [transform_fields, transform_text, replaced]
  refine ⟨index, .list (.record [(label, .text)]), ?_, ?_⟩
  · simp [UniqueLabels, UniqueLabelsFields, TypeExpr.text]
  · rw [apply, apply, apply, apply, transform_list, retyped,
      splitLists_unsplit index keyFields refused, splitLists_records index keyFields taken,
      transform_fields]
    simp

/-- The order of the passes makes no difference for any type and any index, if and only if no
convention covers a key field. -/
theorem passes_commute_iff (keyFields : List String) (table : List ImageConvention) :
    (∀ (index : SampleIndex) (t : TypeExpr), t.UniqueLabels →
      (Pass.conventions table).apply ((Pass.listToRecord index keyFields).apply t) =
        (Pass.listToRecord index keyFields).apply ((Pass.conventions table).apply t)) ↔
      ∀ c ∈ table, ∀ label ∈ c.labels, label ∉ keyFields := by
  constructor
  · intro commute c member label covered isKey
    obtain ⟨index, t, unique, different⟩ := exists_order_matters member covered isKey
    exact different (commute index t unique)
  · intro uncovered index t _
    exact (splitLists_transform_eq ⟨table, keyFields⟩ index uncovered t []).symm

/-- Lists per item, one of which stays a list, with images in all of them. -/
theorem passes_commute_iff_nested :
    let table : List ImageConvention := [⟨["image"], false⟩, ⟨["image", "repository"], true⟩]
    let index : SampleIndex :=
      ⟨[(["pods"], ⟨"name", ["web", "image"]⟩), (["pods", "web", "ports"], ⟨"id", ["http"]⟩)], []⟩
    let lists := Pass.listToRecord index ["name", "id"]
    let images := Pass.conventions table
    let port : TypeExpr := .record [("id", .text), ("image", .text)]
    let pod : TypeExpr := .record [("name", .text), ("repository", .text), ("ports", .list port)]
    let t : TypeExpr := .record [("pods", .optional (.list pod)), ("image", .text)]
    let image := ImageReference.type false
    let item (ports : TypeExpr) : TypeExpr :=
      .record [("repository", ImageReference.type true), ("ports", ports)]
    let t' : TypeExpr := .record
      [("pods", .optional (.record
          [("web", item (.record [("http", .record [("image", image)])])),
            ("image", item (.list (.record [("id", .text), ("image", image)])))])),
        ("image", image)]
    (∀ c ∈ table, ∀ label ∈ c.labels, label ∉ ["name", "id"]) ∧ t.UniqueLabels ∧
      images.apply (lists.apply t) = t' ∧ images.apply (lists.apply t) =
        lists.apply (images.apply t) := by
  intro table index lists images port pod t image item t'
  have uncovered : ∀ c ∈ table, ∀ label ∈ c.labels, label ∉ ["name", "id"] := by decide
  have unique : t.UniqueLabels := by
    simp [t, pod, port, UniqueLabels, UniqueLabelsFields, TypeExpr.text]
  exact ⟨uncovered, unique, by decide,
    (passes_commute_iff ["name", "id"] table).2 uncovered index t unique⟩

end Pass

end TypedManifests
