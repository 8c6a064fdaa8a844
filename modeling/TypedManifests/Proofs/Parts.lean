/-
Module: TypedManifests.Proofs.Parts
Purpose: Types by their parts. What holds of a type is said of its fields as members of a list, so
  that the companions for lists of fields need not appear in later statements.
Main exports: byParts, byLists, uniqueLabels_record, transform_record
-/
import TypedManifests.TypeExpr.Transform

namespace TypedManifests.TypeExpr

/-- A property holds of all types if it passes from the parts of a type to the type. -/
@[elab_as_elim, induction_eliminator]
theorem byParts {motive : TypeExpr → Prop}
    (scalar : ∀ name, motive (.scalar name))
    (optional : ∀ inner, motive inner → motive (.optional inner))
    (list : ∀ element, motive element → motive (.list element))
    (record : ∀ fields : Fields, (∀ field ∈ fields, motive field.2) → motive (.record fields))
    (t : TypeExpr) : motive t := by
  refine @TypeExpr.rec motive (fun fields => ∀ field ∈ fields, motive field.2)
    (fun field => motive field.2) scalar optional list record ?_ ?_ ?_ t
  · intro field member
    cases member
  · intro field rest first others other member
    rcases List.mem_cons.1 member with rfl | member
    · exact first
    · exact others other member
  · exact fun _ _ inner => inner

/-- The same with the lists of records apart from other lists. A list of records may become a
record, of whose parts each has some of the element's fields. -/
@[elab_as_elim]
theorem byLists {motive : TypeExpr → Prop}
    (scalar : ∀ name, motive (.scalar name))
    (optional : ∀ inner, motive inner → motive (.optional inner))
    (list : ∀ element, (∀ fields, element ≠ .record fields) → motive element →
      motive (.list element))
    (records : ∀ element : Fields, (∀ fields, fields ⊆ element → motive (.record fields)) →
      motive (.list (.record element)))
    (record : ∀ fields : Fields, (∀ field ∈ fields, motive field.2) → motive (.record fields))
    (t : TypeExpr) : motive t := by
  have both : motive t ∧ ∀ fields, t = .record fields → ∀ field ∈ fields, motive field.2 := by
    induction t with
    | scalar name => exact ⟨scalar name, by simp⟩
    | optional inner ih => exact ⟨optional inner ih.1, by simp⟩
    | list element ih =>
        refine ⟨?_, by simp⟩
        by_cases shape : ∃ fields, element = .record fields
        · obtain ⟨fields, rfl⟩ := shape
          refine records fields fun some sub => record some fun field member => ?_
          exact ih.2 fields rfl field (sub member)
        · exact list element (fun fields eq => shape ⟨fields, eq⟩) ih.1
    | record fields ih =>
        refine ⟨record fields fun field member => (ih field member).1, ?_⟩
        rintro _ ⟨⟩ field member
        exact (ih field member).1
  exact both.1

theorem uniqueLabelsFields_iff : ∀ fields : Fields,
    UniqueLabelsFields fields ↔ ∀ field ∈ fields, field.2.UniqueLabels
  | [] => by simp [UniqueLabelsFields]
  | (_, _) :: rest => by simp [UniqueLabelsFields, uniqueLabelsFields_iff rest]

/-- A record is well formed if its labels differ and its parts are well formed. -/
theorem uniqueLabels_record {fields : Fields} :
    (record fields).UniqueLabels ↔
      (labels fields).Nodup ∧ ∀ field ∈ fields, field.2.UniqueLabels := by
  rw [UniqueLabels, uniqueLabelsFields_iff, labels]

theorem mem_of_field? {fields : Fields} {label : String} {t : TypeExpr}
    (found : field? fields label = some t) : (label, t) ∈ fields := by
  obtain ⟨⟨name, _⟩, first, rfl⟩ := Option.map_eq_some_iff.1 found
  have same := List.find?_some first
  obtain rfl : name = label := by simpa using same
  exact List.mem_of_find?_eq_some first

/-!
### Rewriting fields

Passes rewrite the types of fields and keep their labels.
-/

theorem labels_names (f : String → TypeExpr) (names : List String) :
    labels (names.map fun name => (name, f name)) = names := by
  rw [labels, List.map_map]
  exact List.map_id names

theorem labels_map (f : String × TypeExpr → TypeExpr) (fields : Fields) :
    labels (fields.map fun field => (field.1, f field)) = labels fields := by
  simp [labels]

theorem transformFields_eq_map (rule : TypeExpr → TypeExpr) : ∀ fields : Fields,
    transformFields rule fields = fields.map fun field => (field.1, transform rule field.2)
  | [] => rfl
  | (label, t) :: rest => by
      rw [transformFields, transformFields_eq_map rule rest, List.map_cons]

theorem transform_record (rule : TypeExpr → TypeExpr) (fields : Fields) :
    transform rule (.record fields) =
      rule (.record (fields.map fun field => (field.1, transform rule field.2))) := by
  rw [transform, transformFields_eq_map]

end TypedManifests.TypeExpr
