/-
Module: TypedManifests.Proofs.SecondRun
Purpose: Strengthening a type that was strengthened before. A pass settles if applying it to its own
  result changes nothing, and a later pass keeps it settled if it makes no new work for it. Both
  passes settle and the conventions keep the lists settled, except that an image reference has a
  field for its repository, which must not be taken for an image again.
Main exports: Settles, KeptBy, apply_applyAll, settles_listToRecord, settles_conventions,
  keptBy_conventions, strengthenType_again
-/
import TypedManifests.Proofs.Passes
import TypedManifests.Settings

namespace TypedManifests

open TypedManifests.TypeExpr

/-!
### Runs of passes that settle
-/

namespace Pass

/-- A second application of the pass changes nothing. -/
def Settles (pass : Pass) : Prop :=
  ∀ t, pass.apply (pass.apply t) = pass.apply t

/-- The later pass makes no work for a pass that has none. -/
def KeptBy (pass later : Pass) : Prop :=
  ∀ t, pass.apply t = t → pass.apply (later.apply t) = later.apply t

/-- Passes that find nothing to do leave the type alone and are not named. -/
theorem applyAll_of_fixed : ∀ {passes : List Pass} {t : TypeExpr},
    (∀ pass ∈ passes, pass.apply t = t) → applyAll passes t = (t, [])
  | [], _, _ => rfl
  | pass :: rest, t, fixed => by
      have first := fixed pass List.mem_cons_self
      have others := applyAll_of_fixed fun other member =>
        fixed other (List.mem_cons_of_mem _ member)
      simp only [applyAll, first, others, if_true]

/-- A run in which no pass is named has changed nothing. -/
theorem fst_applyAll_of_unnamed : ∀ {passes : List Pass} {t : TypeExpr},
    (applyAll passes t).2 = [] → (applyAll passes t).1 = t
  | [], _, _ => rfl
  | pass :: rest, t, unnamed => by
      rw [applyAll] at unnamed ⊢
      simp only at unnamed ⊢
      split at unnamed
      · next same =>
        rw [same] at unnamed ⊢
        exact fst_applyAll_of_unnamed unnamed
      · cases unnamed

theorem apply_applyAll_of_kept {pass : Pass} : ∀ {passes : List Pass} {t : TypeExpr},
    (∀ later ∈ passes, pass.KeptBy later) → pass.apply t = t →
      pass.apply (applyAll passes t).1 = (applyAll passes t).1
  | [], _, _, fixed => fixed
  | later :: rest, t, kept, fixed => by
      have next := kept later List.mem_cons_self t fixed
      rw [applyAll]
      exact apply_applyAll_of_kept
        (fun other member => kept other (List.mem_cons_of_mem _ member)) next

/-- If every pass settles and is kept by the later ones, all of them leave the result of a run
alone. The induction is on the passes: the first one leaves its own result alone, and the others
keep this so. -/
theorem apply_applyAll : ∀ {passes : List Pass}, passes.Pairwise KeptBy →
    (∀ pass ∈ passes, pass.Settles) → ∀ (t : TypeExpr), ∀ pass ∈ passes,
      pass.apply (applyAll passes t).1 = (applyAll passes t).1
  | [], _, _, _, _, member => by cases member
  | first :: rest, kept, settles, t, pass, member => by
      rw [List.pairwise_cons] at kept
      rw [applyAll]
      rcases List.mem_cons.1 member with rfl | member
      · exact apply_applyAll_of_kept kept.1 (settles pass List.mem_cons_self t)
      · exact apply_applyAll kept.2
          (fun other member => settles other (List.mem_cons_of_mem _ member))
          (first.apply t) pass member

end Pass

/-!
### Splitting lists again

The lists that the pass leaves are those that it refuses, and the records that it makes are walked
at the paths at which their items were walked.
-/

namespace Pass

variable (index : SampleIndex) (keyFields : List String)

theorem splitLists_again (t : TypeExpr) : ∀ path : LabelPath,
    splitLists index keyFields path (splitLists index keyFields path t) =
      splitLists index keyFields path t := by
  induction t using byLists with
  | scalar name =>
      intro path
      rw [splitLists, splitLists]
  | optional inner ih =>
      intro path
      rw [splitLists, splitLists, ih path]
  | list element other _ =>
      intro path
      rw [splitLists_list index keyFields path other, splitLists_list index keyFields path other]
  | records element ih =>
      intro path
      cases taken : splitting? index keyFields path element with
      | none =>
          rw [splitLists_unsplit index keyFields taken, splitLists_unsplit index keyFields taken]
      | some keyed =>
          rw [splitLists_records index keyFields taken, splitLists_record, List.map_map,
            TypeExpr.record.injEq]
          refine List.map_congr_left fun name _ => congrArg (Prod.mk name) ?_
          exact ih _ (List.filter_subset_self element) (path ++ [name])
  | record fields ih =>
      intro path
      rw [splitLists_record, splitLists_record, List.map_map, TypeExpr.record.injEq]
      refine List.map_congr_left fun field member => congrArg (Prod.mk field.1) ?_
      exact ih field member (path ++ [field.1])

theorem settles_listToRecord : (Pass.listToRecord index keyFields).Settles :=
  fun t => splitLists_again index keyFields t []

theorem splitLists_imageType (path : LabelPath) (withDigest : Bool) :
    splitLists index keyFields path (ImageReference.type withDigest) =
      ImageReference.type withDigest := by
  cases withDigest <;>
    simp [ImageReference.type, TypeExpr.text, splitLists, splitListsFields]

end Pass

/-!
### Conventions after lists

Conventions turn text into records and nothing else, so a list that was not split for want of a text
field is not split after them either.
-/

namespace ImageConvention

variable (table : List ImageConvention)

theorem eq_text_of_retype {label : String} {t : TypeExpr} (isText : retype table label t = .text) :
    t = .text := by
  rcases retype_cases table label t with same | ⟨c, replaced⟩
  · rw [← same, isText]
  · rw [replaced] at isText
    cases isText

theorem eq_text_of_transform {t : TypeExpr} (isText : transform (retypeRecord table) t = .text) :
    t = .text := by
  cases t with
  | scalar name => simpa using isText
  | optional inner => simp [TypeExpr.text] at isText
  | list element => simp [TypeExpr.text] at isText
  | record fields => simp [transform_fields, TypeExpr.text] at isText

theorem exists_record_of_transform {t : TypeExpr} {fields' : Fields}
    (isRecord : transform (retypeRecord table) t = .record fields') :
    ∃ fields, t = .record fields := by
  cases t with
  | scalar name => simp at isRecord
  | optional inner => simp at isRecord
  | list element => simp at isRecord
  | record fields => exact ⟨fields, rfl⟩

/-- A field that is text after the conventions was text before. -/
theorem field?_of_transform {fields : Fields} {label : String}
    (isText : field? (fields.map fun field =>
      (field.1, retype table field.1 (transform (retypeRecord table) field.2))) label =
        some .text) :
    field? fields label = some .text := by
  rw [field?, List.find?_map, Option.map_map, Option.map_eq_some_iff] at isText
  obtain ⟨field, found, isText⟩ := isText
  have given : field.2 = .text := eq_text_of_transform table (eq_text_of_retype table isText)
  have here : (fields.find? fun field => field.1 = label) = some field := found
  rw [field?, here, Option.map_some, given]

end ImageConvention

namespace Pass

open ImageConvention

variable {index : SampleIndex} {keyFields : List String} {table : List ImageConvention}

theorem splitting?_of_transform {path : LabelPath} {element : Fields}
    (refused : splitting? index keyFields path element = none) :
    splitting? index keyFields path (element.map fun field =>
      (field.1, retype table field.1 (transform (retypeRecord table) field.2))) = none := by
  refine Option.eq_none_iff_forall_ne_some.2 fun keyed taken => ?_
  obtain ⟨known, member, isText, nonempty, nodup⟩ := splitting?_eq_some.1 taken
  have before := field?_of_transform table isText
  rw [splitting?_eq_some.2 ⟨known, member, before, nonempty, nodup⟩] at refused
  cases refused

theorem splitLists_transform (t : TypeExpr) : ∀ path : LabelPath,
    splitLists index keyFields path t = t →
      splitLists index keyFields path (transform (retypeRecord table) t) =
        transform (retypeRecord table) t := by
  induction t using byLists with
  | scalar name =>
      intro path _
      rw [transform_scalar, splitLists]
  | optional inner ih =>
      intro path fixed
      rw [splitLists, TypeExpr.optional.injEq] at fixed
      rw [transform_optional, splitLists, ih path fixed]
  | list element other _ =>
      intro path _
      rw [transform_list]
      refine splitLists_list index keyFields path fun fields isRecord => ?_
      obtain ⟨fields, eq⟩ := exists_record_of_transform table isRecord
      exact other fields eq
  | records element _ =>
      intro path fixed
      cases taken : splitting? index keyFields path element with
      | none =>
          rw [transform_list, transform_fields]
          exact splitLists_unsplit index keyFields (splitting?_of_transform taken)
      | some keyed =>
          rw [splitLists_records index keyFields taken] at fixed
          cases fixed
  | record fields ih =>
      intro path fixed
      have inside : ∀ field ∈ fields,
          splitLists index keyFields (path ++ [field.1]) field.2 = field.2 := by
        rw [splitLists_record, TypeExpr.record.injEq] at fixed
        intro field member
        have same := List.map_inj_left.1 (fixed.trans (List.map_id fields).symm) field member
        exact congrArg Prod.snd same
      rw [transform_fields, splitLists_record, List.map_map, TypeExpr.record.injEq]
      refine List.map_congr_left fun field member => congrArg (Prod.mk field.1) ?_
      rcases retype_cases table field.1 (transform (retypeRecord table) field.2) with
        same | ⟨c, replaced⟩
      · simp only [same]
        exact ih field member _ (inside field member)
      · simp only [replaced]
        exact splitLists_imageType index keyFields _ c.withDigest

/-- Conventions make no work for the splitting of lists. -/
theorem keptBy_conventions : (Pass.listToRecord index keyFields).KeptBy (.conventions table) :=
  fun t fixed => splitLists_transform t [] fixed

/-!
### Conventions again
-/

/-- No convention covers the repository of an image reference. -/
def RepositoryFree (table : List ImageConvention) : Prop :=
  ∀ c ∈ table, "repository" ∉ c.labels

theorem transform_imageType (free : RepositoryFree table) (withDigest : Bool) :
    transform (retypeRecord table) (ImageReference.type withDigest) =
      ImageReference.type withDigest := by
  have repository : retype table "repository" .text = .text := by
    have uncovered : table.find? (·.applies "repository" .text) = none := by
      rw [List.find?_eq_none]
      intro c member
      simpa [applies] using free c member
    rw [retype, uncovered]
  have other : ∀ label, retype table label (.optional .text) = .optional .text :=
    fun label => retype_of_ne table label (by simp [TypeExpr.text])
  have leaf : transform (retypeRecord table) .text = .text := transform_scalar table "Text"
  cases withDigest <;>
    simp [ImageReference.type, transform_fields, leaf, repository, other]

theorem transform_again (free : RepositoryFree table) (t : TypeExpr) :
    transform (retypeRecord table) (transform (retypeRecord table) t) =
      transform (retypeRecord table) t := by
  induction t with
  | scalar name => simp
  | optional inner ih => simp [ih]
  | list element ih => simp [ih]
  | record fields ih =>
      rw [transform_fields, transform_fields, List.map_map, TypeExpr.record.injEq]
      refine List.map_congr_left fun field member => congrArg (Prod.mk field.1) ?_
      rcases retype_cases table field.1 (transform (retypeRecord table) field.2) with
        same | ⟨c, replaced⟩
      · simp only [same, ih field member]
      · have inside := transform_imageType free c.withDigest
        have outside : c.replacement ≠ .text := by
          simp [replacement, ImageReference.type, TypeExpr.text]
        simp only [replaced]
        rw [← replacement] at inside
        rw [inside]
        exact retype_of_ne table field.1 outside

theorem settles_conventions (free : RepositoryFree table) : (Pass.conventions table).Settles :=
  transform_again free

end Pass

/-!
### Runs
-/

namespace Strengthening

theorem ofText_eq_ok {passes : List Pass} {layout : Layout} {source : String}
    {st : Strengthening} :
    ofText passes layout source = .ok st ↔
      ∃ given, parseRecord source = .ok given ∧
        st = ⟨given, (Pass.applyAll passes given).1,
          print layout 0 (Pass.applyAll passes given).1, (Pass.applyAll passes given).2⟩ := by
  rw [ofText]
  cases parseRecord source with
  | error e => simp [bind, Except.bind]
  | ok given => simp [bind, Except.bind, pure, Except.pure, eq_comm]

/-- If every pass settles and is kept by the later ones, a run on the text of a result gives the
same result and text, and no pass is named. -/
theorem ofText_again {sample : Value} {passes : List Pass} {layout : Layout} {source : String}
    {st : Strengthening} (ofSample : ∀ pass ∈ passes, pass.OfSample sample)
    (kept : passes.Pairwise Pass.KeptBy) (settles : ∀ pass ∈ passes, pass.Settles)
    (run : ofText passes layout source = .ok st) :
    ofText passes layout st.text = .ok ⟨st.result, st.result, st.text, []⟩ := by
  obtain ⟨given, denotes, rfl⟩ := ofText_eq_ok.1 run
  have denotable := (denotable_of_parseRecord denotes).applyAll ofSample
  have fixed := Pass.applyAll_of_fixed (Pass.apply_applyAll kept settles given)
  refine ofText_eq_ok.2 ⟨_, denotable.parseRecord_print layout 0, ?_⟩
  simp only [fixed]

end Strengthening

namespace Settings

open ImageConvention

variable (s : Settings)

/-- The passes of a run are the splitting of lists and the conventions, where there are any. -/
theorem passes_cases (index : Option SampleIndex) :
    ∃ lists conventions, s.passes index = lists ++ conventions ∧
      (lists = [] ∨ ∃ i ∈ index, lists = [.listToRecord i s.keyFields]) ∧
      (conventions = [] ∨ conventions = [.conventions s.conventions]) := by
  unfold passes
  split
  · exact ⟨[], [], rfl, Or.inl rfl, Or.inl rfl⟩
  · refine ⟨_, _, rfl, ?_, ?_⟩
    · cases index with
      | none => exact Or.inl rfl
      | some i =>
          cases s.keyFields.isEmpty
          · exact Or.inr ⟨i, rfl, rfl⟩
          · exact Or.inl rfl
    · cases s.conventions.isEmpty
      · exact Or.inr rfl
      · exact Or.inl rfl

theorem mem_passes {index : Option SampleIndex} {pass : Pass} (member : pass ∈ s.passes index) :
    (∃ i ∈ index, pass = .listToRecord i s.keyFields) ∨ pass = .conventions s.conventions := by
  obtain ⟨lists, conventions, eq, isLists, isConventions⟩ := s.passes_cases index
  rw [eq] at member
  rcases List.mem_append.1 member with member | member
  · rcases isLists with rfl | ⟨i, known, rfl⟩
    · cases member
    · exact Or.inl ⟨i, known, List.mem_singleton.1 member⟩
  · rcases isConventions with rfl | rfl
    · cases member
    · exact Or.inr (List.mem_singleton.1 member)

theorem ofSample_passesFor (sample : Option Value) :
    ∀ pass ∈ s.passesFor sample, pass.OfSample (sample.getD .null) := by
  intro pass member
  rcases s.mem_passes member with ⟨i, known, rfl⟩ | rfl
  · obtain ⟨value, rfl, rfl⟩ := Option.map_eq_some_iff.1 known
    exact .lists _ _
  · exact .conventions _

theorem pairwise_passes (index : Option SampleIndex) :
    (s.passes index).Pairwise Pass.KeptBy := by
  obtain ⟨lists, conventions, eq, isLists, isConventions⟩ := s.passes_cases index
  rw [eq]
  rcases isLists with rfl | ⟨i, _, rfl⟩ <;> rcases isConventions with rfl | rfl <;>
    simp [Pass.keptBy_conventions]

theorem settles_passes (free : Pass.RepositoryFree s.conventions) (index : Option SampleIndex) :
    ∀ pass ∈ s.passes index, pass.Settles := by
  intro pass member
  rcases s.mem_passes member with ⟨i, _, rfl⟩ | rfl
  · exact Pass.settles_listToRecord i s.keyFields
  · exact Pass.settles_conventions free

theorem repositoryFree_conventions (free : "repository" ∉ s.imageFields) :
    Pass.RepositoryFree s.conventions := by
  intro c member
  rw [conventions] at member
  split at member
  · cases member
  · obtain rfl := List.mem_singleton.1 member
    exact free

/-- With strengthening on, a run retypes a type whose lists stay. Where this changes the type, the
text changes and a pass is named. -/
theorem strengthenType_print (layout : Layout) (sample : Option Value)
    (on : s.strengthen.truthy = true) (images : s.imageFields ≠ []) {t : TypeExpr}
    (denotable : Denotable t) (stays : ∀ i path, Pass.splitLists i s.keyFields path t = t)
    (changes : transform (retypeRecord s.conventions) t ≠ t) :
    ∃ st, s.strengthenType layout (print layout 0 t) sample = .ok st ∧
      st.text = print layout 0 (transform (retypeRecord s.conventions) t) ∧
        st.text ≠ print layout 0 t ∧ st.applied ≠ [] := by
  have some : s.conventions.isEmpty = false := by simp [conventions, images]
  have result : (Pass.applyAll (s.passesFor sample) t).1 =
      transform (retypeRecord s.conventions) t := by
    unfold passesFor passes
    cases sample with
    | none => simp [on, some, Pass.applyAll, Pass.apply]
    | some value => cases s.keyFields.isEmpty <;> simp [on, some, Pass.applyAll, Pass.apply, stays]
  have retyped := (denotable.applyAll (s.ofSample_passesFor sample)).parseRecord_print layout 0
  refine ⟨_, Strengthening.ofText_eq_ok.2 ⟨t, denotable.parseRecord_print layout 0, rfl⟩,
    congrArg _ result, ?_, ?_⟩
  · intro same
    simp only at same
    rw [same, denotable.parseRecord_print layout 0, result] at retyped
    exact changes (Except.ok.inj retyped).symm
  · intro unnamed
    exact changes (result ▸ Pass.fst_applyAll_of_unnamed unnamed)

theorem retype_repository (repository : "repository" ∈ s.imageFields) :
    retype s.conventions "repository" .text = ImageReference.type s.imageDigest.truthy := by
  have images : s.imageFields ≠ [] := List.ne_nil_of_mem repository
  simp [retype, conventions, images, applies, repository, replacement]

/-- The conventions then take apart the repository of a reference, too. -/
theorem transform_imageType_ne (repository : "repository" ∈ s.imageFields) :
    transform (retypeRecord s.conventions) (ImageReference.type s.imageDigest.truthy) ≠
      ImageReference.type s.imageDigest.truthy := by
  intro same
  have kept : retype s.conventions "repository" .text = .text := by
    rw [ImageReference.type, transform_fields] at same
    cases withDigest : s.imageDigest.truthy <;> simp [withDigest, TypeExpr.text] at same <;>
      exact same.2.1
  rw [s.retype_repository repository] at kept
  cases kept

/-- Where the repository is an image field, a field of this name gains parts with every run. -/
theorem exists_changed_again (layout : Layout) (sample : Option Value)
    (on : s.strengthen.truthy = true) (repository : "repository" ∈ s.imageFields) :
    ∃ source st st', s.strengthenType layout source sample = .ok st ∧
      s.strengthenType layout st.text sample = .ok st' ∧ st'.text ≠ st.text ∧ st'.applied ≠ [] := by
  have images : s.imageFields ≠ [] := List.ne_nil_of_mem repository
  let parts := ImageReference.type s.imageDigest.truthy
  have given : Denotable (.record [("repository", .text)]) := by
    refine ⟨⟨_, rfl⟩, by simp [UniqueLabels, UniqueLabelsFields, TypeExpr.text], ?_⟩
    unfold Printable
    decide
  have first : transform (retypeRecord s.conventions) (.record [("repository", .text)]) =
      .record [("repository", parts)] := by
    rw [transform_fields, List.map_singleton]
    exact congrArg (fun t => TypeExpr.record [("repository", t)]) (s.retype_repository repository)
  have second : transform (retypeRecord s.conventions) (.record [("repository", parts)]) =
      .record [("repository", transform (retypeRecord s.conventions) parts)] := by
    rw [transform_fields, List.map_singleton, retype_of_ne]
    simp [parts, ImageReference.type, transform_fields, TypeExpr.text]
  have ofSample : (Pass.conventions s.conventions).OfSample .null := .conventions s.conventions
  have denotable : Denotable (.record [("repository", parts)]) := first ▸ given.apply ofSample
  obtain ⟨st, run, text, _, _⟩ := s.strengthenType_print layout sample on images given
    (fun i path => by simp [TypeExpr.text, Pass.splitLists, Pass.splitListsFields])
    (by rw [first]; simp [parts, ImageReference.type, TypeExpr.text])
  obtain ⟨st', run', _, other, named⟩ := s.strengthenType_print layout sample on images denotable
    (fun i path => by rw [Pass.splitLists_record]; simp [parts, Pass.splitLists_imageType])
    (by rw [second]; simpa using s.transform_imageType_ne repository)
  rw [first] at text
  exact ⟨_, st, st', run, text ▸ run', text ▸ other, named⟩

/-- Unless the repository of an image reference is an image field itself, strengthening the text of
a strengthened type by the same sample gives this text again and names no pass. Where it is one,
some type is changed again. -/
theorem strengthenType_again :
    (∀ (s : Settings) (layout : Layout) (source : String) (sample : Option Value)
        (st : Strengthening), "repository" ∉ s.imageFields →
      s.strengthenType layout source sample = .ok st →
        ∃ st', s.strengthenType layout st.text sample = .ok st' ∧ st'.text = st.text ∧
          st'.applied = []) ∧
    (∀ (s : Settings) (layout : Layout) (sample : Option Value), s.strengthen.truthy = true →
      "repository" ∈ s.imageFields →
        ∃ source st st', s.strengthenType layout source sample = .ok st ∧
          s.strengthenType layout st.text sample = .ok st' ∧ st'.text ≠ st.text ∧
            st'.applied ≠ []) := by
  constructor
  · intro s layout source sample st free run
    have settles := s.settles_passes (s.repositoryFree_conventions free)
    exact ⟨_, Strengthening.ofText_again (s.ofSample_passesFor sample) (s.pairwise_passes _)
      (settles _) run, rfl, rfl⟩
  · exact fun s layout sample on repository => s.exists_changed_again layout sample on repository

/-- A key field that is an image field as well: the list that is not keyed keeps its names, and they
become references. -/
theorem strengthenType_again_keyImage :
    let s : Settings := { Settings.default with imageFields := ["image", "name"] }
    let twice : Settings := { Settings.default with imageFields := ["repository"] }
    let item := fun name : String => Value.ofFields [("name", .text name), ("image", .text "a:1")]
    let sample := Value.ofFields
      [("pods", .list [item "web", item "db"]), ("jobs", .list [item "job", item "job"])]
    let items : TypeExpr := .list (.record [("name", .text), ("image", .text)])
    let given : TypeExpr := .record [("pods", items), ("jobs", items)]
    let image := ImageReference.type false
    let pod : TypeExpr := .record [("image", image)]
    let result : TypeExpr := .record
      [("pods", .record [("web", pod), ("db", pod)]),
        ("jobs", .list (.record [("name", image), ("image", image)]))]
    let st : Strengthening :=
      ⟨given, result, print .block 0 result, ["list-to-record", "image-reference"]⟩
    ("repository" ∉ s.imageFields ∧
      s.strengthenType .block (print .oneLine 0 given) (some sample) = .ok st ∧
      ∃ st', s.strengthenType .block st.text (some sample) = .ok st' ∧ st'.text = st.text ∧
        st'.applied = []) ∧
    twice.strengthen.truthy = true ∧ "repository" ∈ twice.imageFields ∧
      ∃ source st st', twice.strengthenType .block source (some sample) = .ok st ∧
        twice.strengthenType .block st.text (some sample) = .ok st' ∧ st'.text ≠ st.text ∧
          st'.applied ≠ [] := by
  intro s twice item sample items given image pod result st
  have denotable : Denotable given := by
    refine ⟨⟨_, rfl⟩, ?_, ?_⟩
    · simp [given, items, UniqueLabels, UniqueLabelsFields, TypeExpr.text]
    · unfold Printable
      decide
  have ran : Pass.applyAll (s.passesFor (some sample)) given = (st.result, st.applied) := by decide
  have run : s.strengthenType .block (print .oneLine 0 given) (some sample) = .ok st := by
    refine Strengthening.ofText_eq_ok.2 ⟨given, denotable.parseRecord_print .oneLine 0, ?_⟩
    simp only [ran]
    rfl
  have free : "repository" ∉ s.imageFields := by decide
  refine ⟨⟨free, run, strengthenType_again.1 s .block _ (some sample) st free run⟩, by decide,
    by decide, ?_⟩
  exact strengthenType_again.2 twice .block (some sample) (by decide) (by decide)

end Settings

end TypedManifests
