/-
Module: TypedManifests.Proofs.CheckedRecords
Purpose: Passes that check every record as they build it. A record with a repeated label is refused,
  so a pass could fail in the middle of a type. On well-formed types no check fails, whatever the
  index says: labels are those of a record that was there, those of a record that was there less
  one, the different names of a keyed list, or the parts of an image reference.
Main exports: ofFields_eq_ok, splitListsChecked_eq_ok, retypeChecked_eq_ok, applyChecked_eq_ok,
  applyAllChecked_eq_ok
-/
import TypedManifests.Proofs.ParallelWalk
import TypedManifests.Proofs.Passes

namespace TypedManifests

/-!
### Building a record
-/

namespace TypeExpr

theorem repeatedLabel?_go_eq_none (labels : List String) : ∀ seen : List String,
    repeatedLabel?.go seen labels = none ↔ labels.Nodup ∧ ∀ label ∈ labels, label ∉ seen := by
  induction labels with
  | nil => simp [repeatedLabel?.go]
  | cons label rest ih =>
      intro seen
      rw [repeatedLabel?.go, List.nodup_cons]
      by_cases again : label ∈ seen
      · simp [again]
      · rw [if_neg again, ih]
        constructor
        · rintro ⟨nodup, fresh⟩
          refine ⟨⟨fun member => fresh label member List.mem_cons_self, nodup⟩, ?_⟩
          intro other member
          rcases List.mem_cons.1 member with rfl | member
          · exact again
          · exact fun known => fresh other member (List.mem_cons_of_mem _ known)
        · rintro ⟨⟨once, nodup⟩, fresh⟩
          refine ⟨nodup, fun other member known => ?_⟩
          rcases List.mem_cons.1 known with rfl | known
          · exact once member
          · exact fresh other (List.mem_cons_of_mem _ member) known

/-- A record passes the check if and only if its labels are pairwise different. -/
theorem ofFields_eq_ok {fields : Fields} {t : TypeExpr} :
    ofFields fields = .ok t ↔ (labels fields).Nodup ∧ t = .record fields := by
  have accepted : repeatedLabel? (labels fields) = none ↔ (labels fields).Nodup := by
    rw [repeatedLabel?, repeatedLabel?_go_eq_none]
    simp
  rw [ofFields]
  cases found : repeatedLabel? (labels fields) with
  | none => simp [accepted.1 found, eq_comm]
  | some label =>
      have refused : ¬ (labels fields).Nodup := fun nodup => by simp [accepted.2 nodup] at found
      simp [refused]

theorem ofFields_of_nodup {fields : Fields} (nodup : (labels fields).Nodup) :
    ofFields fields = .ok (.record fields) :=
  ofFields_eq_ok.2 ⟨nodup, rfl⟩

/-- `transform`, where a record is checked before it is offered to the rule. -/
def transformChecked (rule : TypeExpr → Except String TypeExpr) :
    TypeExpr → Except String TypeExpr
  | .scalar name => rule (.scalar name)
  | .optional t => do rule (.optional (← transformChecked rule t))
  | .list t => do rule (.list (← transformChecked rule t))
  | .record fields => do
    let parts ← fields.mapM fun field => (transformChecked rule field.2).map (Prod.mk field.1)
    rule (← ofFields parts)
termination_by t => sizeOf t
decreasing_by
  · simp
  · simp
  · next member =>
    have smaller := List.sizeOf_lt_of_mem member
    obtain ⟨label, t⟩ := field
    simp only [TypeExpr.record.sizeOf_spec, Prod.mk.sizeOf_spec] at smaller ⊢
    omega

end TypeExpr

open TypedManifests.TypeExpr

theorem mapM_eq_ok {ε α β : Type} {f : α → Except ε β} {g : α → β} {xs : List α}
    (each : ∀ x ∈ xs, f x = .ok (g x)) : xs.mapM f = .ok (xs.map g) := by
  induction xs with
  | nil => rfl
  | cons x rest ih =>
      have others := ih fun y member => each y (List.mem_cons_of_mem _ member)
      rw [List.mapM_cons, each x List.mem_cons_self, others]
      rfl

theorem bind_ok_iff {ε α β : Type} {x : Except ε α} {f : α → Except ε β} {b : β} :
    x >>= f = .ok b ↔ ∃ a, x = .ok a ∧ f a = .ok b := by
  cases x with
  | error e => simp [bind, Except.bind]
  | ok a => simp [bind, Except.bind]

theorem labels_of_mapM {f : TypeExpr → Except String TypeExpr} {fields : Fields} :
    ∀ {parts : Fields}, (fields.mapM fun field => (f field.2).map (Prod.mk field.1)) = .ok parts →
      labels parts = labels fields ∧ ∀ field ∈ fields, ∃ t, f field.2 = .ok t := by
  induction fields with
  | nil =>
      intro parts each
      cases each
      simp
  | cons field rest ih =>
      intro parts each
      rw [List.mapM_cons] at each
      obtain ⟨part, first, each⟩ := bind_ok_iff.1 each
      obtain ⟨others, remaining, made⟩ := bind_ok_iff.1 each
      cases made
      obtain ⟨t, ended, rfl⟩ := map_eq_ok.1 first
      obtain ⟨kept, inside⟩ := ih remaining
      refine ⟨congrArg (field.1 :: ·) kept, fun other member => ?_⟩
      rcases List.mem_cons.1 member with rfl | member
      · exact ⟨t, ended⟩
      · exact inside other member

/-- A record is built if its parts are and their labels differ. -/
theorem ofFields_mapM {α : Type} {xs : List α} {f : α → Except String TypeExpr}
    {g : α → TypeExpr} (label : α → String) (nodup : (xs.map label).Nodup)
    (each : ∀ x ∈ xs, f x = .ok (g x)) :
    (do ofFields (← xs.mapM fun x => (f x).map (Prod.mk (label x)))) =
      .ok (.record (xs.map fun x => (label x, g x))) := by
  have parts : (xs.mapM fun x => (f x).map (Prod.mk (label x))) =
      .ok (xs.map fun x => (label x, g x)) := by
    refine mapM_eq_ok fun x member => ?_
    rw [each x member]
    rfl
  rw [parts]
  refine ofFields_of_nodup ?_
  rwa [labels, List.map_map]

/-!
### Passes with checks
-/

namespace ImageConvention

/-- The type of a reference's parts is checked as it is built. -/
def replacementChecked (c : ImageConvention) : Except String TypeExpr :=
  match c.replacement with
  | .record fields => ofFields fields
  | t => .ok t

def retypeChecked (table : List ImageConvention) (label : String) (t : TypeExpr) :
    Except String TypeExpr :=
  match table.find? (·.applies label t) with
  | some c => c.replacementChecked
  | none => .ok t

/-- `retypeRecord`, where the record with the new types is checked. -/
def retypeRecordChecked (table : List ImageConvention) : TypeExpr → Except String TypeExpr
  | .record fields => do
    ofFields (← fields.mapM fun field =>
      (retypeChecked table field.1 field.2).map (Prod.mk field.1))
  | t => .ok t

end ImageConvention

namespace Pass

/-- `splitLists`, where each record is checked: the element without its key field, at which the walk
goes on, and the record of the names. -/
def splitListsChecked (index : SampleIndex) (keyFields : List String) (path : LabelPath) :
    TypeExpr → Except String TypeExpr
  | .scalar name => .ok (.scalar name)
  | .optional t => do return .optional (← splitListsChecked index keyFields path t)
  | .record fields => do
    ofFields (← fields.mapM fun field =>
      (splitListsChecked index keyFields (path ++ [field.1]) field.2).map (Prod.mk field.1))
  | .list (.record element) =>
    match splitting? index keyFields path element with
    | none => .ok (.list (.record element))
    | some keyed =>
      match built : ofFields (without element keyed.field) with
      | .error label => .error label
      | .ok rest => do
        ofFields (← keyed.names.mapM fun name =>
          (splitListsChecked index keyFields (path ++ [name]) rest).map (Prod.mk name))
  | .list t => .ok (.list t)
termination_by t => sizeOf t
decreasing_by
  · simp
  · next member =>
    have smaller := List.sizeOf_lt_of_mem member
    obtain ⟨label, t⟩ := field
    simp only [TypeExpr.record.sizeOf_spec, Prod.mk.sizeOf_spec] at smaller ⊢
    omega
  · have smaller := sizeOf_without keyed.field element
    obtain ⟨_, rfl⟩ := ofFields_eq_ok.1 built
    simp only [TypeExpr.record.sizeOf_spec, TypeExpr.list.sizeOf_spec]
    omega

def applyChecked : Pass → TypeExpr → Except String TypeExpr
  | .listToRecord index keyFields, t => splitListsChecked index keyFields [] t
  | .conventions table, t => t.transformChecked (ImageConvention.retypeRecordChecked table)

/-- `applyAll`, which a refused record ends with the label that is repeated. -/
def applyAllChecked : List Pass → TypeExpr → Except String (TypeExpr × List String)
  | [], t => .ok (t, [])
  | pass :: rest, t => do
    let t' ← pass.applyChecked t
    let (result, names) ← applyAllChecked rest t'
    return (result, if t' = t then names else pass.name :: names)

/-!
### No check fails

The step is one pass on a well-formed type, by induction on the type; the run is by induction on the
passes, of which each leaves a well-formed type to the next.
-/

theorem splitListsChecked_eq_ok (index : SampleIndex) (keyFields : List String) {t : TypeExpr} :
    t.UniqueLabels → ∀ path,
      splitListsChecked index keyFields path t = .ok (splitLists index keyFields path t) := by
  induction t using byLists with
  | scalar name =>
      intro _ path
      rw [splitListsChecked, splitLists]
  | optional inner ih =>
      intro unique path
      rw [splitListsChecked, splitLists, ih unique path]
      rfl
  | list element other _ =>
      intro _ path
      rw [splitLists_list index keyFields path other, splitListsChecked]
      exact other
  | records element ih =>
      intro unique path
      rw [splitListsChecked]
      cases taken : splitting? index keyFields path element with
      | none => rw [splitLists_unsplit index keyFields taken]
      | some keyed =>
          have items := labelwise_uniqueLabels.list.1 unique
          have rest := labelwise_uniqueLabels.without keyed.field items
          have built := ofFields_of_nodup (uniqueLabels_record.1 rest).1
          have names : keyed.names.Nodup := (splitting?_eq_some.1 taken).2.2.2.2
          rw [splitLists_records index keyFields taken]
          simp only
          -- The walk goes on in what the check gives back, so the check is decided first.
          split
          · next refused => cases built.symm.trans refused
          · next t accepted =>
              cases built.symm.trans accepted
              refine ofFields_mapM id (by rwa [List.map_id]) fun name _ => ?_
              exact ih _ (List.filter_subset_self element) rest (path ++ [name])
  | record fields ih =>
      intro unique path
      rw [uniqueLabels_record] at unique
      rw [splitListsChecked, splitLists_record]
      exact ofFields_mapM Prod.fst unique.1 fun field member =>
        ih field member (unique.2 field member) (path ++ [field.1])

end Pass

namespace ImageConvention

theorem replacementChecked_eq_ok (c : ImageConvention) :
    c.replacementChecked = .ok c.replacement := by
  have unique := uniqueLabels_imageType c.withDigest
  exact ofFields_of_nodup (uniqueLabels_record.1 unique).1

theorem retypeChecked_eq_ok (table : List ImageConvention) (label : String) (t : TypeExpr) :
    retypeChecked table label t = .ok (retype table label t) := by
  rw [retypeChecked, retype]
  cases table.find? (·.applies label t) with
  | none => rfl
  | some c => exact c.replacementChecked_eq_ok

theorem retypeRecordChecked_eq_ok (table : List ImageConvention) {fields : Fields}
    (nodup : (TypeExpr.labels fields).Nodup) :
    retypeRecordChecked table (.record fields) = .ok (retypeRecord table (.record fields)) :=
  ofFields_mapM Prod.fst nodup fun field _ => retypeChecked_eq_ok table field.1 field.2

theorem transformChecked_eq_ok (table : List ImageConvention) {t : TypeExpr} :
    t.UniqueLabels →
      t.transformChecked (retypeRecordChecked table) = .ok (t.transform (retypeRecord table)) := by
  induction t with
  | scalar name =>
      intro _
      rw [transformChecked, transform]
      rfl
  | optional inner ih =>
      intro unique
      rw [transformChecked, transform, ih unique]
      rfl
  | list element ih =>
      intro unique
      rw [transformChecked, transform, ih unique]
      rfl
  | record fields ih =>
      intro unique
      rw [uniqueLabels_record] at unique
      rw [transformChecked, transform_record]
      have inside := fun field member => ih field member (unique.2 field member)
      have kept := labels_map (fun field => transform (retypeRecord table) field.2) fields
      rw [← bind_assoc, ofFields_mapM Prod.fst unique.1 inside]
      exact retypeRecordChecked_eq_ok table (kept ▸ unique.1)

theorem uniqueLabels_of_transformChecked (table : List ImageConvention) {t : TypeExpr} :
    ∀ {result}, t.transformChecked (retypeRecordChecked table) = .ok result → t.UniqueLabels := by
  induction t with
  | scalar name => exact fun _ => trivial
  | optional inner ih =>
      intro result ends
      rw [transformChecked] at ends
      obtain ⟨inside, ended, _⟩ := bind_ok_iff.1 ends
      exact ih ended
  | list element ih =>
      intro result ends
      rw [transformChecked] at ends
      obtain ⟨inside, ended, _⟩ := bind_ok_iff.1 ends
      exact ih ended
  | record fields ih =>
      intro result ends
      rw [transformChecked] at ends
      obtain ⟨parts, each, ends⟩ := bind_ok_iff.1 ends
      obtain ⟨built, accepted, _⟩ := bind_ok_iff.1 ends
      obtain ⟨kept, inside⟩ := labels_of_mapM each
      rw [uniqueLabels_record, ← kept]
      refine ⟨(ofFields_eq_ok.1 accepted).1, fun field member => ?_⟩
      obtain ⟨part, ended⟩ := inside field member
      exact ih field member ended

end ImageConvention

namespace Pass

theorem applyChecked_eq_ok (pass : Pass) {t : TypeExpr} (unique : t.UniqueLabels) :
    pass.applyChecked t = .ok (pass.apply t) := by
  cases pass with
  | listToRecord index keyFields => exact splitListsChecked_eq_ok index keyFields unique []
  | conventions table => exact ImageConvention.transformChecked_eq_ok table unique

/-- The check is one of the whole type: conventions end on well-formed types and on no others. -/
theorem applyChecked_conventions_iff (table : List ImageConvention) (t : TypeExpr) :
    (∃ result, (Pass.conventions table).applyChecked t = .ok result) ↔ t.UniqueLabels := by
  constructor
  · rintro ⟨result, ends⟩
    exact ImageConvention.uniqueLabels_of_transformChecked table ends
  · exact fun unique => ⟨_, applyChecked_eq_ok _ unique⟩

theorem uniqueLabels_applyAll (passes : List Pass) {t : TypeExpr} (unique : t.UniqueLabels) :
    (applyAll passes t).1.UniqueLabels := by
  induction passes generalizing t with
  | nil => exact unique
  | cons pass rest ih => exact ih (pass.uniqueLabels_apply unique)

theorem applyAll_record (passes : List Pass) (fields : Fields) :
    ∃ fields', (applyAll passes (.record fields)).1 = .record fields' := by
  induction passes generalizing fields with
  | nil => exact ⟨fields, rfl⟩
  | cons pass rest ih =>
      obtain ⟨next, made⟩ := pass.apply_record fields
      rw [applyAll, made]
      exact ih next

theorem applyAllChecked_eq_ok (passes : List Pass) {t : TypeExpr} (unique : t.UniqueLabels) :
    applyAllChecked passes t = .ok (applyAll passes t) := by
  induction passes generalizing t with
  | nil => rfl
  | cons pass rest ih =>
      rw [applyAllChecked, applyAll, pass.applyChecked_eq_ok unique]
      change (applyAllChecked rest (pass.apply t) >>= _) = _
      rw [ih (pass.uniqueLabels_apply unique)]
      rfl

/-- On a well-formed type every sequence of passes ends, whatever their indexes say, and no record
is refused on the way. The result is well formed, and a record if the type was one. -/
theorem applyAllChecked_of_uniqueLabels (passes : List Pass) {t : TypeExpr}
    (unique : t.UniqueLabels) :
    ∃ result applied, applyAllChecked passes t = .ok (result, applied) ∧
      applyAll passes t = (result, applied) ∧ result.UniqueLabels ∧
        ∀ fields, t = .record fields → ∃ fields', result = .record fields' := by
  refine ⟨_, _, applyAllChecked_eq_ok passes unique, rfl, uniqueLabels_applyAll passes unique, ?_⟩
  rintro fields rfl
  exact applyAll_record passes fields

/-- An index filled by hand: names at the root, no names, a name twice, names that may not be labels
of a sample, and lists inside the parts that the pass makes itself. -/
theorem applyAllChecked_of_uniqueLabels_byHand :
    let named := fun names : List String => KeyedList.mk "name" names
    let index : SampleIndex :=
      ⟨[([], named ["a"]), (["none"], named []), (["twice"], named ["a", "a"]),
        (["pods"], named ["", "`"]), (["pods", "", "ports"], named ["name", "ports"])], []⟩
    let lists := Pass.listToRecord index ["name"]
    let ports : TypeExpr := .list (.record [("name", .text), ("image", .text)])
    let pods : TypeExpr := .list (.record [("ports", ports), ("name", .text)])
    let given : Fields := [("none", ports), ("twice", ports), ("pods", pods)]
    (TypeExpr.record given).UniqueLabels ∧
      ∃ result applied,
        applyAllChecked [lists, .conventions [⟨["image"], true⟩], lists] (.record given) =
          .ok (result, applied) ∧
        applyAll [lists, .conventions [⟨["image"], true⟩], lists] (.record given) =
          (result, applied) ∧
        result.UniqueLabels ∧ ∃ fields', result = .record fields' := by
  intro named index lists ports pods given
  have unique : (TypeExpr.record given).UniqueLabels := by
    simp [given, pods, ports, UniqueLabels, UniqueLabelsFields, TypeExpr.text]
  obtain ⟨result, applied, checked, plain, apart, stays⟩ :=
    applyAllChecked_of_uniqueLabels [lists, .conventions [⟨["image"], true⟩], lists] unique
  exact ⟨unique, result, applied, checked, plain, apart, stays given rfl⟩

end Pass

end TypedManifests
