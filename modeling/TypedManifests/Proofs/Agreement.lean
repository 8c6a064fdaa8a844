/-
Module: TypedManifests.Proofs.Agreement
Purpose: Strengthening a type and reshaping its data agree. Data that fits a type is reshaped, by
  the type that the passes made of it, into data that fits that type. The passes find a keyed list
  by its path in the index, the reshaping by looking at the data; the invariant is that the index
  agrees with the part of the data that the walk has reached.
Main exports: splitLists_of_nothing, fits_retype, fits_conform, fits_conformData
-/
import TypedManifests.Proofs.Passes
import TypedManifests.Proofs.Reshaping

namespace TypedManifests

open TypedManifests.TypeExpr

variable {admits : String → Value → Prop}

/-!
### Image references
-/

theorem fits_ofText? (text : Option String) :
    Fits admits (.optional .text) (.ofText? text) := by
  cases text with
  | none => exact .null
  | some s => exact .present (.text s)

theorem fits_imageReference (withDigest : Bool) (reference : ImageReference) :
    Fits admits (ImageReference.type withDigest) (reference.toValue withDigest) := by
  have registry : Fits admits (.optional .text) (.ofText? reference.registry) := fits_ofText? _
  have repository : Fits admits .text (.text reference.repository) := .text _
  have tag : Fits admits (.optional .text) (.ofText? reference.tag) := fits_ofText? _
  have digest : Fits admits (.optional .text) (.ofText? reference.digest) := fits_ofText? _
  cases withDigest with
  | false => exact fits_ofFields (by simp) (by simp_all) (by simp)
  | true => exact fits_ofFields (by simp) (by simp_all) (by simp)

/-- A text is taken apart where some convention made a record of the field. Of several conventions
that cover the field another one may do so, but it makes the same type of it. -/
theorem text_of_applies {r : Reshaping} {name : String} {c : ImageConvention}
    (member : c ∈ r.conventions) (applies : c.applies name .text = true) (s : String) :
    ∃ c' : ImageConvention, c'.replacement = c.replacement ∧
      r.text (some name) c.replacement s = (ImageReference.ofText s).toValue c'.withDigest := by
  have serves : (r.conventions.find? fun c' =>
      c'.applies name .text && c'.replacement = c.replacement).isSome = true := by
    rw [List.find?_isSome]
    exact ⟨c, member, by simp [applies]⟩
  obtain ⟨c', found⟩ := Option.isSome_iff_exists.1 serves
  have same := List.find?_some found
  simp only [Bool.and_eq_true, decide_eq_true_eq] at same
  refine ⟨c', same.2, ?_⟩
  simp only [Reshaping.text, found, ImageConvention.reshape]

/-- A field that fits still fits when a convention retypes it. -/
theorem fits_retype {r : Reshaping} {name : String} {t : TypeExpr} {value : Value}
    (fits : Fits admits t (r.conform (some name) t value)) :
    Fits admits (ImageConvention.retype r.conventions name t)
      (r.conform (some name) (ImageConvention.retype r.conventions name t) value) := by
  rw [ImageConvention.retype]
  split
  · next c taken =>
    have applies := List.find?_some taken
    obtain ⟨_, rfl⟩ : _ ∧ t = .text := by simpa [ImageConvention.applies] using applies
    rw [TypeExpr.text, Reshaping.conform_scalar] at fits
    cases fits with
    | scalar other => exact absurd rfl other
    | text s =>
        obtain ⟨c', same, shaped⟩ := text_of_applies (List.mem_of_find?_eq_some taken) applies s
        have apart : r.conform (some name) c.replacement (.text s) =
            r.text (some name) c.replacement s := Reshaping.conform_text r (some name) _ s
        rw [apart, shaped, ← same]
        exact fits_imageReference c'.withDigest (ImageReference.ofText s)
  · exact fits

/-!
### The walk
-/

/-- A pass whose index has nothing at or below a path leaves the type there as it is. -/
theorem splitLists_of_nothing {index : SampleIndex} {keyFields : List String} (t : TypeExpr) :
    ∀ path : LabelPath, SampleIndex.Agrees keyFields index path none →
      Pass.splitLists index keyFields path t = t := by
  induction t using byLists with
  | scalar name =>
      intro path _
      rw [Pass.splitLists]
  | optional inner ih =>
      intro path nothing
      rw [Pass.splitLists, ih path nothing]
  | list element other _ =>
      intro path _
      exact Pass.splitLists_list index keyFields path other
  | records element ih =>
      intro path nothing
      refine Pass.splitLists_unsplit index keyFields ?_
      have missing : index.lookup path = none := by simpa using nothing []
      rw [Pass.splitting?, missing, Option.filter_none]
  | record fields ih =>
      intro path nothing
      rw [Pass.splitLists_record, TypeExpr.record.injEq]
      refine (List.map_congr_left fun field member => ?_).trans (List.map_id fields)
      have below := ih field member (path ++ [field.1]) (nothing.child (by simp) field.1)
      rw [below, id]

/-- The type at a path after both passes: its keyed lists are split, then its fields are retyped. -/
def strengthened (r : Reshaping) (index : SampleIndex) (path : LabelPath) (t : TypeExpr) :
    TypeExpr :=
  transform (ImageConvention.retypeRecord r.conventions) (Pass.splitLists index r.keyFields path t)

section

variable (r : Reshaping) (index : SampleIndex) (path : LabelPath)

theorem strengthened_scalar (name : String) :
    strengthened r index path (.scalar name) = .scalar name := by
  simp [strengthened, Pass.splitLists]

theorem strengthened_optional (t : TypeExpr) :
    strengthened r index path (.optional t) = .optional (strengthened r index path t) := by
  simp [strengthened, Pass.splitLists]

theorem strengthened_record (fields : Fields) :
    strengthened r index path (.record fields) =
      .record (fields.map fun field =>
        (field.1, ImageConvention.retype r.conventions field.1
          (strengthened r index (path ++ [field.1]) field.2))) := by
  rw [strengthened, Pass.splitLists_record, ImageConvention.transform_fields, List.map_map]
  rfl

/-- A split list becomes a record, and the conventions leave the records of its items alone. -/
theorem strengthened_records {element : Fields} {keyed : KeyedList}
    (taken : Pass.splitting? index r.keyFields path element = some keyed) :
    strengthened r index path (.list (.record element)) =
      .record (keyed.names.map fun name =>
        (name, strengthened r index (path ++ [name]) (.record (without element keyed.field)))) := by
  rw [strengthened, Pass.splitLists_records index r.keyFields taken,
    ImageConvention.transform_fields, List.map_map]
  refine congrArg TypeExpr.record (List.map_congr_left fun name _ => ?_)
  refine congrArg (Prod.mk name) (ImageConvention.retype_of_ne _ _ ?_)
  simp [Pass.splitLists_record, ImageConvention.transform_fields, TypeExpr.text]

/-- A list that stays a list is only retyped inside, as if there were no index. -/
theorem strengthened_list {t : TypeExpr}
    (stays : Pass.splitLists index r.keyFields path (.list t) = .list t) :
    strengthened r index path (.list t) = .list (strengthened r .empty [] t) := by
  rw [strengthened, stays, ImageConvention.transform_list, strengthened,
    splitLists_of_nothing t [] fun _ => rfl]

end

/-- Inside of a list that stays a list there is no index to agree with. -/
theorem fits_conform_list {r : Reshaping} {index : SampleIndex} {path : LabelPath}
    {label : Option String} {element : TypeExpr} {value : Value}
    (stays : Pass.splitLists index r.keyFields path (.list element) = .list element)
    (fits : Fits admits (.list element) value)
    (inside : ∀ item, Fits admits element item →
      Fits admits (strengthened r .empty [] element)
        (r.conform none (strengthened r .empty [] element) item)) :
    Fits admits (strengthened r index path (.list element))
      (r.conform label (strengthened r index path (.list element)) value) := by
  cases fits with
  | @list _ items all =>
      rw [strengthened_list r index path stays, Reshaping.conform_list]
      refine .list fun item listed => ?_
      obtain ⟨given, member, rfl⟩ := List.mem_map.1 listed
      exact inside given (all given member)

/-- At every place that the walk reaches, data that fits the type is reshaped into data that fits
the strengthened type. The induction is on the type, with the cases of the walk over it. -/
theorem fits_conform (r : Reshaping) (t : TypeExpr) :
    ∀ (index : SampleIndex) (path : LabelPath) (label : Option String) (value : Value),
      t.UniqueLabels → Fits admits t value →
        SampleIndex.Reaches r.keyFields index path value →
          Fits admits (strengthened r index path t)
            (r.conform label (strengthened r index path t) value) := by
  induction t using byLists with
  | scalar name =>
      intro index path label value _ fits _
      rw [strengthened_scalar, Reshaping.conform_scalar]
      exact fits
  | optional inner ih =>
      intro index path label value unique fits reaches
      rw [strengthened_optional, Reshaping.conform_optional]
      cases fits with
      | null =>
          rw [Reshaping.conform_null]
          exact .null
      | present fits => exact .present (ih index path label value unique fits reaches)
  | list element other ih =>
      intro index path label value unique fits _
      refine fits_conform_list (Pass.splitLists_list index r.keyFields path other) fits ?_
      exact fun item fits => ih .empty [] none item unique fits (SampleIndex.reaches_empty _ _ _)
  | records element ih =>
      intro index path label value unique fits reaches
      cases taken : Pass.splitting? index r.keyFields path element with
      | none =>
          refine fits_conform_list (Pass.splitLists_unsplit index r.keyFields taken) fits ?_
          exact fun item fits => ih element (List.Subset.refl _) .empty [] none item unique fits
            (SampleIndex.reaches_empty _ _ _)
      | some keyed =>
          cases fits with
          | @list _ items all =>
              have isKeyed := reaches.of?_of_lookup (Pass.splitting?_eq_some.1 taken).1
              rw [strengthened_records r index path taken]
              refine r.fits_conform_keyed label isKeyed fun part member => ?_
              obtain ⟨entries, listed, rest⟩ := SampleIndex.mem_namedItems member
              refine ih _ (List.filter_subset_self element) index _ _ _ ?_ ?_ ?_
              · exact labelwise_uniqueLabels.without keyed.field unique
              · rw [rest]
                exact (all _ listed).without keyed.field
              · refine reaches.child (SampleIndex.unambiguous_list _ _) ?_
                simpa only [SampleIndex.children, isKeyed] using member
  | record fields ih =>
      intro index path label value unique fits reaches
      rw [uniqueLabels_record] at unique
      cases fits with
      | @record _ entries distinct present absent =>
          rw [strengthened_record]
          refine r.fits_conform_record label ?_ distinct ?_ ?_
          · rw [labels_map fun field => ImageConvention.retype r.conventions field.1 _]
            exact unique.1
          · intro field listed entry entryMember same
            obtain ⟨given, member, rfl⟩ := List.mem_map.1 listed
            have here : entry.1.keyText = given.1 := same
            refine fits_retype (ih given member index _ _ _ (unique.2 given member) ?_ ?_)
            · exact present given member entry entryMember same
            · refine reaches.child (SampleIndex.unambiguous_map distinct) ?_
              exact List.mem_map.2 ⟨entry, entryMember, by rw [here]⟩
          · intro field listed missing
            obtain ⟨given, member, rfl⟩ := List.mem_map.1 listed
            obtain ⟨inner, optional⟩ := absent given member missing
            refine ⟨strengthened r index (path ++ [given.1]) inner, ?_⟩
            rw [optional, strengthened_optional]
            exact ImageConvention.retype_of_ne _ _ (by simp [TypeExpr.text])

/-- Data that fits a well-formed type is reshaped into data that fits the type which the two passes
make of it, with the data's own index, whatever the key fields and the conventions are. -/
theorem fits_conformData (admits : String → Value → Prop) (conventions : List ImageConvention)
    (keyFields : List String) {t : TypeExpr} {data : Value} (unique : t.UniqueLabels)
    (fits : Fits admits t data) :
    let lists := Pass.listToRecord (SampleIndex.ofValue keyFields data) keyFields
    let t' := (Pass.conventions conventions).apply (lists.apply t)
    Fits admits t' (conformData conventions keyFields t' data) :=
  fits_conform ⟨conventions, keyFields⟩ t _ [] none data unique fits
    (SampleIndex.reaches_ofValue keyFields data)

/-- Lists per item inside of an optional list, and a key field that is an image as well. -/
theorem fits_conformData_nested :
    let admits : String → Value → Prop := fun _ value => ∃ i, value = .int i
    let port (image : String) : Value := .ofFields [("image", .text image), ("port", .int 80)]
    let pod (name : String) (images : List String) : Value :=
      .ofFields [("name", .text name), ("image", .text "a/b:1"), ("ports", .list (images.map port))]
    let data : Value := .ofFields
      [("pods", .list [pod "web" ["x", "y"], pod "db" ["z"]])]
    let portType : TypeExpr := .record [("image", .text), ("port", .scalar "Natural")]
    let podType : TypeExpr :=
      .record [("name", .text), ("image", .text), ("ports", .list portType)]
    let t : TypeExpr := .record [("pods", .optional (.list podType)), ("note", .optional .text)]
    let conventions : List ImageConvention := [⟨["image"], false⟩, ⟨["image", "name"], true⟩]
    let number : TypeExpr := .record [("port", .scalar "Natural")]
    let item (ports : List String) : TypeExpr :=
      .record [("image", ImageReference.type false), ("ports", .record (ports.map (·, number)))]
    let t' : TypeExpr := .record
      [("pods", .optional (.record [("web", item ["x", "y"]), ("db", item ["z"])])),
        ("note", .optional .text)]
    t.UniqueLabels ∧ Fits admits t data ∧
      Fits admits t' (conformData conventions ["name", "image"] t' data) := by
  intro admits port pod data portType podType t conventions number item t'
  have unique : t.UniqueLabels := by
    simp [t, podType, portType, UniqueLabels, UniqueLabelsFields, TypeExpr.text]
  have portFits : ∀ image, Fits admits portType (port image) := by
    intro image
    have first : Fits admits .text (.text image) := .text image
    have second : Fits admits (.scalar "Natural") (.int 80) :=
      .scalar (by decide) trivial ⟨80, rfl⟩
    exact fits_ofFields (by simp) (by simp_all) (by simp)
  have podFits : ∀ name images, Fits admits podType (pod name images) := by
    intro name images
    have first : Fits admits .text (.text name) := .text name
    have second : Fits admits .text (.text "a/b:1") := .text _
    have third : Fits admits (.list portType) (.list (images.map port)) := by
      refine .list fun item listed => ?_
      obtain ⟨image, _, rfl⟩ := List.mem_map.1 listed
      exact portFits image
    exact fits_ofFields (by simp) (by simp_all) (by simp)
  have fits : Fits admits t data := by
    have pods : Fits admits (.optional (.list podType))
        (.list [pod "web" ["x", "y"], pod "db" ["z"]]) :=
      .present (.list (by simp [podFits]))
    exact fits_ofFields (by simp) (by simp_all) (by simp)
  have result : (Pass.conventions conventions).apply ((Pass.listToRecord
      (SampleIndex.ofValue ["name", "image"] data) ["name", "image"]).apply t) = t' := by
    decide
  refine ⟨unique, fits, ?_⟩
  rw [← result]
  exact fits_conformData admits conventions ["name", "image"] unique fits

end TypedManifests
