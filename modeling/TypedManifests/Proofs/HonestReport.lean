/-
Module: TypedManifests.Proofs.HonestReport
Purpose: What a run reports is what it did. A pass turns lists of records and texts into records and
  leaves the rest of a type as it is, so types are ordered by what they say and each pass only moves
  up. What one pass changed is therefore not undone by later ones, and the type has changed in the
  end if and only if a pass is named.
Main exports: Refines, refines_apply, refines_applyAll, changed_iff_named
-/
import TypedManifests.Proofs.SecondRun

namespace TypedManifests

open TypedManifests.TypeExpr

/-!
### The order on types

A record says more than a text or a list. Between other types the order is that of their parts.
-/

mutual

/-- The second type is the first one, or some of its texts and lists have become records. -/
inductive Refines : TypeExpr → TypeExpr → Prop where
  | scalar (name : String) : Refines (.scalar name) (.scalar name)
  | reference (fields : Fields) : Refines .text (.record fields)
  | optional {s t : TypeExpr} (inner : Refines s t) : Refines (.optional s) (.optional t)
  | list {s t : TypeExpr} (element : Refines s t) : Refines (.list s) (.list t)
  | keyed (element : TypeExpr) (fields : Fields) : Refines (.list element) (.record fields)
  | record {fields fields' : Fields} (parts : RefinesFields fields fields') :
      Refines (.record fields) (.record fields')

/-- Field by field under the same labels. -/
inductive RefinesFields : Fields → Fields → Prop where
  | nil : RefinesFields [] []
  | cons {s t : TypeExpr} {rest rest' : Fields} (label : String) (first : Refines s t)
      (others : RefinesFields rest rest') : RefinesFields ((label, s) :: rest) ((label, t) :: rest')

end

theorem RefinesFields.map {f : String × TypeExpr → TypeExpr} : ∀ {fields : Fields},
    (∀ field ∈ fields, Refines field.2 (f field)) →
      RefinesFields fields (fields.map fun field => (field.1, f field))
  | [], _ => .nil
  | (label, _) :: _, refines =>
      .cons label (refines _ List.mem_cons_self)
        (RefinesFields.map fun field member => refines field (List.mem_cons_of_mem _ member))

theorem Refines.refl (t : TypeExpr) : Refines t t := by
  induction t with
  | scalar name => exact .scalar name
  | optional inner ih => exact .optional ih
  | list element ih => exact .list ih
  | record fields ih =>
      apply Refines.record
      simpa using RefinesFields.map ih

mutual

theorem Refines.trans {s t u : TypeExpr} (first : Refines s t) (second : Refines t u) :
    Refines s u := by
  cases first with
  | scalar name => exact second
  | reference fields =>
      cases second with
      | record parts => exact .reference _
  | optional inner =>
      cases second with
      | optional inner' => exact .optional (inner.trans inner')
  | list element =>
      cases second with
      | list element' => exact .list (element.trans element')
      | keyed _ fields => exact .keyed _ fields
  | keyed element fields =>
      cases second with
      | record parts => exact .keyed element _
  | record parts =>
      cases second with
      | record parts' => exact .record (parts.trans parts')

theorem RefinesFields.trans {fields fields' fields'' : Fields}
    (first : RefinesFields fields fields') (second : RefinesFields fields' fields'') :
    RefinesFields fields fields'' := by
  cases first with
  | nil => exact second
  | cons label head others =>
      cases second with
      | cons _ head' others' => exact .cons label (head.trans head') (others.trans others')

end

mutual

theorem Refines.antisymm {s t : TypeExpr} (up : Refines s t) (down : Refines t s) : s = t := by
  cases up with
  | scalar name => rfl
  | reference fields => cases down
  | optional inner =>
      cases down with
      | optional inner' => rw [inner.antisymm inner']
  | list element =>
      cases down with
      | list element' => rw [element.antisymm element']
  | keyed element fields => cases down
  | record parts =>
      cases down with
      | record parts' => rw [parts.antisymm parts']

theorem RefinesFields.antisymm {fields fields' : Fields} (up : RefinesFields fields fields')
    (down : RefinesFields fields' fields) : fields = fields' := by
  cases up with
  | nil => rfl
  | cons label head others =>
      cases down with
      | cons _ head' others' => rw [head.antisymm head', others.antisymm others']

end

/-!
### Passes move up

The step is one pass, by induction on the type; the run is by induction on the passes.
-/

namespace Pass

theorem refines_splitLists (index : SampleIndex) (keyFields : List String) (t : TypeExpr) :
    ∀ path, Refines t (splitLists index keyFields path t) := by
  induction t using byLists with
  | scalar name =>
      intro path
      rw [splitLists]
      exact .scalar name
  | optional inner ih =>
      intro path
      rw [splitLists]
      exact .optional (ih path)
  | list element other _ =>
      intro path
      rw [splitLists_list index keyFields path other]
      exact .refl _
  | records element _ =>
      intro path
      cases taken : splitting? index keyFields path element with
      | none =>
          rw [splitLists_unsplit index keyFields taken]
          exact .refl _
      | some keyed =>
          rw [splitLists_records index keyFields taken]
          exact .keyed _ _
  | record fields ih =>
      intro path
      rw [splitLists_record]
      exact .record (.map fun field member => ih field member (path ++ [field.1]))

theorem refines_retype (table : List ImageConvention) (t : TypeExpr) :
    Refines t (transform (ImageConvention.retypeRecord table) t) := by
  induction t with
  | scalar name =>
      rw [ImageConvention.transform_scalar]
      exact .scalar name
  | optional inner ih =>
      rw [ImageConvention.transform_optional]
      exact .optional ih
  | list element ih =>
      rw [ImageConvention.transform_list]
      exact .list ih
  | record fields ih =>
      rw [ImageConvention.transform_fields]
      refine .record (.map fun field member => (ih field member).trans ?_)
      generalize transform (ImageConvention.retypeRecord table) field.2 = inside
      by_cases isText : inside = .text
      · rcases ImageConvention.retype_cases table field.1 inside with same | ⟨c, replaced⟩
        · rw [same]
          exact .refl _
        · rw [replaced, isText]
          exact .reference _
      · rw [ImageConvention.retype_of_ne table field.1 isText]
        exact .refl _

/-- What a pass makes of a type says at least as much. -/
theorem refines_apply (pass : Pass) (t : TypeExpr) : Refines t (pass.apply t) := by
  cases pass with
  | listToRecord index keyFields => exact refines_splitLists index keyFields t []
  | conventions table => exact refines_retype table t

theorem refines_applyAll (passes : List Pass) (t : TypeExpr) :
    Refines t (applyAll passes t).1 := by
  induction passes generalizing t with
  | nil => exact .refl t
  | cons pass rest ih => exact (pass.refines_apply t).trans (ih (pass.apply t))

theorem fst_applyAll_append (first second : List Pass) (t : TypeExpr) :
    (applyAll (first ++ second) t).1 = (applyAll second (applyAll first t).1).1 := by
  induction first generalizing t with
  | nil => rfl
  | cons pass rest ih => exact ih (pass.apply t)

/-- What the passes that were run have changed stays changed in whatever follows. -/
theorem fst_applyAll_append_ne (first second : List Pass) {t : TypeExpr}
    (moved : (applyAll first t).1 ≠ t) : (applyAll (first ++ second) t).1 ≠ t := by
  intro back
  have up := refines_applyAll first t
  have down := refines_applyAll second (applyAll first t).1
  rw [← fst_applyAll_append, back] at down
  exact moved (down.antisymm up)

/-- The type has changed in the end if and only if some pass changed it. -/
theorem fst_applyAll_ne_iff (passes : List Pass) (t : TypeExpr) :
    (applyAll passes t).1 ≠ t ↔ (applyAll passes t).2 ≠ [] := by
  constructor
  · exact fun moved unnamed => moved (fst_applyAll_of_unnamed unnamed)
  · intro named
    induction passes generalizing t with
    | nil => exact absurd rfl named
    | cons pass rest ih =>
        by_cases same : pass.apply t = t
        · have others : (applyAll rest t).2 ≠ [] := by simpa [applyAll, same] using named
          rw [applyAll, same]
          exact ih t others
        · exact fst_applyAll_append_ne [pass] rest same

end Pass

namespace Strengthening

/-- On a text that is read as a record type a run ends with a result that differs from the type read
if and only if some pass is named, and no type that a pass left behind is ever come back to. -/
theorem changed_iff_named (passes : List Pass) (layout : Layout) {source : String}
    {given : TypeExpr} (denotes : parseRecord source = .ok given) :
    ∃ st, ofText passes layout source = .ok st ∧ st.given = given ∧
      (st.changed = true ↔ st.applied ≠ []) ∧
      ∀ first second third, passes = first ++ second ++ third →
        (Pass.applyAll (first ++ second) given).1 ≠ (Pass.applyAll first given).1 →
          st.result ≠ (Pass.applyAll first given).1 := by
  refine ⟨_, ofText_eq_ok.2 ⟨given, denotes, rfl⟩, rfl, ?_, ?_⟩
  · rw [changed, decide_eq_true_iff, ne_comm]
    exact Pass.fst_applyAll_ne_iff passes given
  · intro first second third split moved
    rw [Pass.fst_applyAll_append] at moved
    rw [split, List.append_assoc, Pass.fst_applyAll_append]
    exact Pass.fst_applyAll_append_ne second third moved

/-- An index filled by hand, and conventions before and after it, of which the later one takes apart
what the earlier one has made. -/
theorem changed_iff_named_mixed :
    let names : KeyedList := ⟨"name", ["web", "db"]⟩
    let lists := Pass.listToRecord ⟨[(["pods"], names), ([], names)], []⟩ ["name"]
    let images := Pass.conventions [⟨["image"], false⟩]
    let repositories := Pass.conventions [⟨["repository"], true⟩, ⟨["name"], true⟩]
    let passes := [lists] ++ [images, repositories] ++ [lists, images]
    let given : TypeExpr := .record [("pods", .list (.record [("name", .text), ("image", .text)]))]
    let source := print .oneLine 0 given
    parseRecord source = .ok given ∧
      (Pass.applyAll ([lists] ++ [images, repositories]) given).1 ≠
        (Pass.applyAll [lists] given).1 ∧
      ∃ st, ofText passes .block source = .ok st ∧ st.given = given ∧
        (st.changed = true ↔ st.applied ≠ []) ∧ st.result ≠ (Pass.applyAll [lists] given).1 := by
  intro names lists images repositories passes given source
  have denotable : Denotable given := by
    refine ⟨⟨_, rfl⟩, ?_, ?_⟩
    · simp [given, UniqueLabels, UniqueLabelsFields, TypeExpr.text]
    · unfold Printable
      decide
  have denotes : parseRecord source = .ok given := denotable.parseRecord_print .oneLine 0
  have moved : (Pass.applyAll ([lists] ++ [images, repositories]) given).1 ≠
      (Pass.applyAll [lists] given).1 := by decide
  obtain ⟨st, run, same, named, kept⟩ := changed_iff_named passes .block denotes
  exact ⟨denotes, moved, st, run, same, named, kept _ _ _ rfl moved⟩

end Strengthening

end TypedManifests
