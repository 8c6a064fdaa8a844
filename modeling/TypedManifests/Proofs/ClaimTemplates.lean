/-
Module: TypedManifests.Proofs.ClaimTemplates
Purpose: Which documents describe a resource, and what their contents become: the claim templates of
  a stateful set are completed, wherever else in the document they stand, and nothing else is
  touched. Doing it again changes nothing.
Main exports: Resource.Described, Resource.head_eq_ok_iff, Resource.claimTemplates_eq_ok_iff,
  Resource.head_completedEntries, Resource.CompletedClaims, Resource.completedClaims_of_alone,
  Resource.completed_again, Resource.ofDocument_frame
-/
import Mathlib.Data.List.Forall2
import TypedManifests.Proofs.CheckedRecords
import TypedManifests.Proofs.CompletedMappings

namespace TypedManifests

namespace Resource

/-!
### Documents that describe a resource
-/

/-- The contents name themselves: their kind, their API version and, in their metadata, a name. -/
structure Named (contents : Entries) (kind : String) : Prop where
  kind_eq : contents.get? "kind" = some (.text kind)
  apiVersion : ∃ version, contents.get? "apiVersion" = some (.text version)
  metadata : ∃ metadata : Entries, contents.get? "metadata" = some (.map metadata) ∧
    ∃ name, metadata.get? "name" = some (.text name)

/-- A claim template: a mapping, and its mark. -/
structure Template where
  mark : Mark
  entries : List (Value × Document)

def Template.document (t : Template) : Document := .map t.mark t.entries

def Template.value (t : Template) : Entries := Document.entryValues t.entries

/-- The specification lists claim templates, which are mappings. -/
def HasClaims (contents spec : List (Value × Document)) (templates : List Template) : Prop :=
  (∃ mark, Document.get? contents "spec" = some (.map mark spec)) ∧
    ∃ mark, Document.get? spec "volumeClaimTemplates" =
      some (.list mark (templates.map Template.document))

/-- The document describes a resource of a kind. -/
inductive Described : Document → String → Prop where
  | intro {mark : Mark} {contents : List (Value × Document)} {kind : String}
      (named : Named (Document.entryValues contents) kind)
      (claims : kind = statefulSetKind → ∃ spec templates, HasClaims contents spec templates) :
      Described (.map mark contents) kind

theorem head_eq_ok_iff {contents : Entries} {h : Head} : head contents = .ok h ↔
    contents.get? "kind" = some (.text h.kind) ∧
      contents.get? "apiVersion" = some (.text h.apiVersion) ∧
      (∃ metadata : Entries, contents.get? "metadata" = some (.map metadata) ∧
        metadata.get? "name" = some (.text h.name)) ∧
      h.labels = labelsOf contents := by
  obtain ⟨kind, version, name, labels⟩ := h
  constructor
  · intro read
    simp only [head] at read
    split at read
    case h_2 => cases read
    next kind kind_eq =>
    split at read
    case h_2 => cases read
    next version version_eq =>
    split at read
    case h_2 => cases read
    next metadata metadata_eq =>
    split at read
    case h_2 => cases read
    next name name_eq =>
    cases read
    exact ⟨kind_eq, version_eq, ⟨metadata, metadata_eq, name_eq⟩, rfl⟩
  · rintro ⟨kind_eq, version_eq, ⟨metadata, metadata_eq, name_eq⟩, rfl⟩
    simp only [head, kind_eq, version_eq, metadata_eq, name_eq]
    rfl

theorem exists_head_iff {contents : Entries} {kind : String} :
    (∃ h, head contents = .ok h ∧ h.kind = kind) ↔ Named contents kind := by
  constructor
  · rintro ⟨h, read, rfl⟩
    obtain ⟨kind_eq, version_eq, ⟨metadata, metadata_eq, name_eq⟩, -⟩ := head_eq_ok_iff.1 read
    exact ⟨kind_eq, ⟨_, version_eq⟩, metadata, metadata_eq, _, name_eq⟩
  · rintro ⟨kind_eq, ⟨version, version_eq⟩, metadata, metadata_eq, name, name_eq⟩
    exact ⟨⟨kind, version, name, labelsOf contents⟩,
      head_eq_ok_iff.2 ⟨kind_eq, version_eq, ⟨metadata, metadata_eq, name_eq⟩, rfl⟩, rfl⟩

/-- What is read of each of a list, all of which have to be of one form. -/
theorem mapM_eq_ok_iff {ε α β γ : Type} {f : α → Except ε β} {form : γ → α} {g : γ → β}
    (each : ∀ v w, f v = .ok w ↔ ∃ x, v = form x ∧ w = g x) {vs : List α} :
    ∀ {ws : List β}, vs.mapM f = .ok ws ↔ ∃ xs : List γ, vs = xs.map form ∧ ws = xs.map g := by
  induction vs with
  | nil =>
      intro ws
      rw [List.mapM_nil]
      constructor
      · intro done
        cases done
        exact ⟨[], rfl, rfl⟩
      · rintro ⟨xs, none, rfl⟩
        rw [List.map_eq_nil_iff.1 none.symm]
        rfl
  | cons v rest ih =>
      intro ws
      rw [List.mapM_cons, bind_ok_iff]
      constructor
      · rintro ⟨w, first, following⟩
        obtain ⟨others, remaining, made⟩ := bind_ok_iff.1 following
        cases made
        obtain ⟨x, rfl, rfl⟩ := (each v w).1 first
        obtain ⟨xs, rfl, rfl⟩ := ih.1 remaining
        exact ⟨x :: xs, rfl, rfl⟩
      · rintro ⟨xs, split, rfl⟩
        obtain ⟨x, others, rfl, first, remaining⟩ := List.map_eq_cons_iff.1 split.symm
        refine ⟨_, (each v _).2 ⟨x, first.symm, rfl⟩, bind_ok_iff.2 ⟨_, ?_, rfl⟩⟩
        exact ih.2 ⟨others, remaining.symm, rfl⟩

section

variable {contents spec : List (Value × Document)} {templates : List Template} {marks : List Mark}

/-- Just the templates have the marks of mappings. -/
theorem templateMark_eq_ok_iff (d : Document) (mark : Mark) :
    (match d with
      | .map mark _ => Except.ok mark
      | _ => .error ResourceFault.claimTemplateNotAMapping) = .ok mark ↔
    ∃ t : Template, d = t.document ∧ mark = t.mark := by
  cases d with
  | map own entries =>
      constructor
      · intro done
        exact ⟨⟨own, entries⟩, rfl, (Except.ok.inj done).symm⟩
      · rintro ⟨t, same, rfl⟩
        cases same
        rfl
  | _ => simp [Template.document]

theorem claimTemplates_eq_ok_iff : claimTemplates contents = .ok marks ↔
    ∃ spec templates, HasClaims contents spec templates ∧ marks = templates.map Template.mark := by
  constructor
  · intro listed
    simp only [claimTemplates] at listed
    split at listed
    case h_2 => cases listed
    next specMark spec spec_eq =>
    split at listed
    case h_2 => cases listed
    next listMark items items_eq =>
    obtain ⟨templates, rfl, rfl⟩ := (mapM_eq_ok_iff templateMark_eq_ok_iff).1 listed
    exact ⟨spec, templates, ⟨⟨specMark, spec_eq⟩, listMark, items_eq⟩, rfl⟩
  · rintro ⟨spec, templates, ⟨⟨specMark, spec_eq⟩, listMark, items_eq⟩, rfl⟩
    simp only [claimTemplates, spec_eq, items_eq]
    exact (mapM_eq_ok_iff templateMark_eq_ok_iff).2 ⟨templates, rfl, rfl⟩

/-- A template stands in the contents that have it. -/
theorem mem_entryParts_of_hasClaims (claims : HasClaims contents spec templates) {t : Template}
    (member : t ∈ templates) : t.document ∈ Document.entryParts contents := by
  obtain ⟨⟨specMark, spec_eq⟩, listMark, items_eq⟩ := claims
  refine Document.mem_entryParts_of_get? spec_eq (List.mem_cons_of_mem _ ?_)
  refine Document.mem_entryParts_of_get? items_eq (List.mem_cons_of_mem _ ?_)
  rw [Document.itemParts_eq_flatMap]
  exact List.mem_flatMap.2 ⟨_, List.mem_map_of_mem member, Document.self_mem_parts⟩

end

variable {marks : List Mark}

/-!
### What names a resource

No key on the way to the kind, the API version, the name or the component of a resource is one that
completing sets, save at the top, where nothing is completed.
-/

/-- The text at the end of a way through mappings. -/
def textAt? : List String → Value → Option String
  | [], v => v.text?
  | key :: keys, .map entries => (Entries.get? entries key).bind (textAt? keys)
  | _ :: _, _ => none

/-- What is found in a mapping that may be one to complete. -/
theorem get?_completedMapping {mark : Mark} {entries : List (Value × Document)} {key : String}
    (other : key ≠ "apiVersion" ∧ key ≠ "kind") :
    Entries.get? (if mark ∈ marks then completeTemplate (completedEntries marks entries)
      else completedEntries marks entries) key =
        (Document.get? entries key).map (completedValue marks) := by
  split
  · rw [get?_completeTemplate other, get?_completedEntries]
  · exact get?_completedEntries

theorem textAt?_completedValue {keys : List String} :
    ∀ {d : Document}, (∀ key ∈ keys, key ≠ "apiVersion" ∧ key ≠ "kind") →
      textAt? keys (completedValue marks d) = textAt? keys d.value := by
  induction keys with
  | nil =>
      intro d _
      cases d <;> rfl
  | cons key keys ih =>
      intro d others
      cases d with
      | map mark entries =>
          rw [completedValue, Document.value, textAt?, textAt?,
            get?_completedMapping (others key List.mem_cons_self), Document.get?_entryValues]
          cases Document.get? entries key with
          | none => rfl
          | some inner => exact ih fun key member => others key (List.mem_cons_of_mem _ member)
      | _ => rfl

theorem textAt?_completedEntries (marks : List Mark) {contents : List (Value × Document)}
    {key : String} {keys : List String} (others : ∀ key ∈ keys, key ≠ "apiVersion" ∧ key ≠ "kind") :
    textAt? (key :: keys) (.map (completedEntries marks contents)) =
      textAt? (key :: keys) (.map (Document.entryValues contents)) := by
  rw [textAt?, textAt?, get?_completedEntries, Document.get?_entryValues]
  cases Document.get? contents key with
  | none => rfl
  | some inner => exact textAt?_completedValue others

theorem text?_eq_some_iff {v : Value} {s : String} : v.text? = some s ↔ v = .text s := by
  cases v <;> simp [Value.text?]

theorem textAt?_singleton {contents : Entries} {key s : String} :
    textAt? [key] (.map contents) = some s ↔ contents.get? key = some (.text s) := by
  simp [textAt?, Option.bind_eq_some_iff, text?_eq_some_iff]

theorem textAt?_pair {contents : Entries} {key label s : String} :
    textAt? [key, label] (.map contents) = some s ↔ ∃ inner : Entries,
      contents.get? key = some (.map inner) ∧ inner.get? label = some (.text s) := by
  rw [textAt?, Option.bind_eq_some_iff]
  constructor
  · rintro ⟨v, found, text⟩
    cases v with
    | map inner => exact ⟨inner, found, textAt?_singleton.1 text⟩
    | _ => cases text
  · rintro ⟨inner, found, text⟩
    exact ⟨.map inner, found, textAt?_singleton.2 text⟩

theorem labelledComponent?_labelsOf (contents : Entries) : labelledComponent? (labelsOf contents) =
    textAt? ["metadata", "labels", componentLabel] (.map contents) := by
  simp only [labelsOf, textAt?]
  cases contents.get? "metadata" with
  | none => rfl
  | some metadata =>
      cases metadata with
      | map metadata =>
          simp only [Option.bind_some, textAt?]
          cases Entries.get? metadata "labels" with
          | none => rfl
          | some labels => cases labels <;> rfl
      | _ => rfl

/-- Completing leaves a resource the names that it has. -/
theorem head_completedEntries {contents : List (Value × Document)} {h : Head}
    (read : head (Document.entryValues contents) = .ok h) :
    ∃ h', head (completedEntries marks contents) = .ok h' ∧ h'.kind = h.kind ∧
      h'.apiVersion = h.apiVersion ∧ h'.name = h.name ∧
      labelledComponent? h'.labels = labelledComponent? h.labels := by
  obtain ⟨kind_eq, version_eq, named, labels_eq⟩ := head_eq_ok_iff.1 read
  rw [← textAt?_singleton, ← textAt?_completedEntries marks (by simp), textAt?_singleton]
    at kind_eq version_eq
  rw [← textAt?_pair, ← textAt?_completedEntries marks (by simp), textAt?_pair] at named
  refine ⟨⟨h.kind, h.apiVersion, h.name, labelsOf (completedEntries marks contents)⟩,
    head_eq_ok_iff.2 ⟨kind_eq, version_eq, named, rfl⟩, rfl, rfl, rfl, ?_⟩
  rw [labels_eq, labelledComponent?_labelsOf, labelledComponent?_labelsOf,
    textAt?_completedEntries marks (by simp [componentLabel])]

/-!
### Contents with completed templates
-/

variable {kind : String} {contents spec : List (Value × Document)} {contents' : Entries}
  {templates : List Template}

theorem completed_eq_ok_iff : completed kind contents = .ok contents' ↔
    if kind = statefulSetKind then ∃ spec templates, HasClaims contents spec templates ∧
      contents' = completedEntries (templates.map Template.mark) contents
    else contents' = Document.entryValues contents := by
  rw [completed]
  split
  · next isSet =>
    rw [TypeExpr.map_eq_ok]
    constructor
    · rintro ⟨marks, listed, rfl⟩
      obtain ⟨spec, templates, claims, rfl⟩ := claimTemplates_eq_ok_iff.1 listed
      exact ⟨spec, templates, claims, rfl⟩
    · rintro ⟨spec, templates, claims, rfl⟩
      exact ⟨_, claimTemplates_eq_ok_iff.2 ⟨spec, templates, claims, rfl⟩, rfl⟩
  · next other => exact ⟨fun done => (Except.ok.inj done).symm, fun eq => eq ▸ rfl⟩

theorem exists_completed_iff :
    (∃ contents', completed kind contents = .ok contents') ↔
      (kind = statefulSetKind → ∃ spec templates, HasClaims contents spec templates) := by
  simp only [completed_eq_ok_iff]
  split
  · next isSet => simp [isSet]
  · next other => simp [other]

/-- The contents differ in the claim templates, each of which was completed. -/
def CompletedClaims (contents contents' : Entries) : Prop :=
  ∃ spec spec' templates templates',
    Entries.Replaced "spec" (.map spec) (.map spec') contents contents' ∧
    Entries.Replaced "volumeClaimTemplates" (.list (templates.map .map))
      (.list (templates'.map .map)) spec spec' ∧
    List.Forall₂ CompletedTemplate templates templates'

/-- No claim template stands in another place too: among all mappings it is as often as among the
templates. -/
def Alone (contents : List (Value × Document)) (templates : List Template) : Prop :=
  ∀ mark ∈ templates.map Template.mark,
    (Document.entryMarks contents).count mark = (templates.map Template.mark).count mark

/-- The marks of the mappings inside the templates. -/
def innerMarks (templates : List Template) : List Mark :=
  templates.flatMap fun t => Document.entryMarks t.entries

theorem completedEntries_of_notMem {entries : List (Value × Document)}
    (absent : ∀ mark ∈ marks, mark ∉ Document.entryMarks entries) :
    completedEntries marks entries = Document.entryValues entries :=
  completedEntries_of_complete fun mark _ member template =>
    absurd (Document.mem_entryMarks member) (absent mark template)

theorem count_itemParts (mark : Mark) : ∀ templates : List Template,
    (Document.mappingMarks (Document.itemParts (templates.map Template.document))).count mark =
      (templates.map Template.mark).count mark + (innerMarks templates).count mark
  | [] => rfl
  | t :: rest => by
      have others := count_itemParts mark rest
      simp only [Document.mappingMarks, innerMarks, List.map_cons, Document.itemParts,
        Template.document, Document.parts, List.cons_append, List.filterMap_cons,
        Document.mappingMark?, List.filterMap_append, List.count_cons, List.count_append,
        List.flatMap_cons, Document.entryMarks] at others ⊢
      omega

/-- Where no template stands inside another one, each is completed once. -/
theorem completedItems_templates (templates : List Template)
    (absent : ∀ mark ∈ marks, mark ∉ innerMarks templates)
    (marked : ∀ t ∈ templates, t.mark ∈ marks) :
    completedItems marks (templates.map Template.document) =
      (templates.map fun t => completeTemplate t.value).map .map := by
  rw [completedItems_eq_map, List.map_map, List.map_map]
  refine List.map_congr_left fun t member => ?_
  have inside : completedEntries marks t.entries = t.value :=
    completedEntries_of_notMem fun mark template among =>
      absent mark template (List.mem_flatMap.2 ⟨t, member, among⟩)
  rw [Function.comp_apply, Function.comp_apply, Template.document, completedValue, inside,
    if_pos (marked t member)]

/-- Where no claim template stands in another place too, only the claim templates are completed. -/
theorem completedClaims_of_alone (claims : HasClaims contents spec templates)
    (alone : Alone contents templates) :
    CompletedClaims (Document.entryValues contents)
      (completedEntries (templates.map Template.mark) contents) := by
  obtain ⟨⟨specMark, spec_eq⟩, listMark, items_eq⟩ := claims
  obtain ⟨before, after, rfl, first⟩ := Document.exists_split_of_get? spec_eq
  obtain ⟨before', after', rfl, first'⟩ := Document.exists_split_of_get? items_eq
  -- the templates make up all of the count of their marks, and nothing is left for other mappings
  have others (mark : Mark) (member : mark ∈ templates.map Template.mark) :
      mark ∉ Document.entryMarks before ∧ mark ∉ Document.entryMarks after ∧
        mark ∉ Document.entryMarks before' ∧ mark ∉ Document.entryMarks after' ∧
        mark ∉ innerMarks templates ∧ specMark ≠ mark := by
    have total := alone mark member
    simp only [Document.entryMarks_split, Document.mappingMarks_map, Document.mappingMarks_list,
      List.count_append, List.count_cons, count_itemParts] at total
    simp only [← List.count_eq_zero]
    split at total
    · omega
    · next other =>
      exact ⟨by omega, by omega, by omega, by omega, by omega, by simpa using other⟩
  have atBefore := completedEntries_of_notMem fun mark member => (others mark member).1
  have atAfter := completedEntries_of_notMem fun mark member => (others mark member).2.1
  have inBefore := completedEntries_of_notMem fun mark member => (others mark member).2.2.1
  have inAfter := completedEntries_of_notMem fun mark member => (others mark member).2.2.2.1
  have listed := completedItems_templates templates
    (fun mark member => (others mark member).2.2.2.2.1)
    fun t member => List.mem_map_of_mem member
  have specOther : specMark ∉ templates.map Template.mark :=
    fun member => (others specMark member).2.2.2.2.2 rfl
  refine ⟨_, _, templates.map Template.value, templates.map fun t => completeTemplate t.value,
    ⟨Document.entryValues before, Document.entryValues after,
      Document.get?_entryValues_eq_none first, Document.entryValues_split .., ?_⟩,
    ⟨Document.entryValues before', Document.entryValues after',
      Document.get?_entryValues_eq_none first', ?_, rfl⟩, ?_⟩
  · rw [completedEntries_split, atBefore, atAfter, completedValue, if_neg specOther,
      completedEntries_split, inBefore, inAfter, completedValue, listed]
  · rw [Document.entryValues_split, Document.value, Document.values_eq_map, List.map_map,
      List.map_map]
    rfl
  · rw [List.forall₂_map_left_iff, List.forall₂_map_right_iff, List.forall₂_same]
    exact fun t _ => completedTemplate_completeTemplate t.value

theorem exists_templates {d : Document} (agrees : d.Agrees) :
    ∀ {items : List Document} {templates' : List Entries}, (∀ item ∈ items, item ∈ d.parts) →
      Document.values items = templates'.map .map →
      ∃ templates : List Template, items = templates.map Template.document ∧
        templates.map Template.value = templates'
  | [], templates', _, values_eq => by
      obtain rfl := List.map_eq_nil_iff.1 values_eq.symm
      exact ⟨[], rfl, rfl⟩
  | item :: rest, templates', inside, values_eq => by
      obtain ⟨template', others', rfl, first_eq, others_eq⟩ := List.map_eq_cons_iff.1 values_eq.symm
      obtain ⟨mark, entries, rfl, rfl⟩ :=
        agrees.exists_map (inside item List.mem_cons_self) first_eq.symm
      obtain ⟨others, rfl, rfl⟩ := exists_templates agrees
        (fun item member => inside item (List.mem_cons_of_mem _ member)) others_eq.symm
      exact ⟨⟨mark, entries⟩ :: others, rfl, rfl⟩

/-- A document whose value lists claim templates lists them itself. -/
theorem exists_hasClaims {mark : Mark} (agrees : (Document.map mark contents).Agrees)
    {spec' : Entries} {templates' : List Entries}
    (spec_eq : (Document.entryValues contents).get? "spec" = some (.map spec'))
    (items_eq : spec'.get? "volumeClaimTemplates" = some (.list (templates'.map .map))) :
    ∃ spec templates, HasClaims contents spec templates ∧
      templates.map Template.value = templates' := by
  rw [Document.get?_entryValues, Option.map_eq_some_iff] at spec_eq
  obtain ⟨d, found, value_eq⟩ := spec_eq
  have within {part : Document} (member : part ∈ d.parts) :
      part ∈ (Document.map mark contents).parts :=
    List.mem_cons_of_mem _ (Document.mem_entryParts_of_get? found member)
  obtain ⟨specMark, spec, rfl, rfl⟩ := agrees.exists_map (within Document.self_mem_parts) value_eq
  rw [Document.get?_entryValues, Option.map_eq_some_iff] at items_eq
  obtain ⟨d, listed, value_eq⟩ := items_eq
  have inside {part : Document} (member : part ∈ d.parts) :
      part ∈ (Document.map mark contents).parts :=
    within (List.mem_cons_of_mem _ (Document.mem_entryParts_of_get? listed member))
  obtain ⟨listMark, items, rfl, items_eq⟩ :=
    agrees.exists_list (inside Document.self_mem_parts) value_eq
  have eachInside (item : Document) (member : item ∈ items) :
      item ∈ (Document.map mark contents).parts := by
    refine inside (List.mem_cons_of_mem _ ?_)
    rw [Document.itemParts_eq_flatMap]
    exact List.mem_flatMap.2 ⟨item, member, Document.self_mem_parts⟩
  obtain ⟨templates, rfl, templates_eq⟩ := exists_templates agrees eachInside items_eq
  exact ⟨spec, templates, ⟨⟨specMark, found⟩, listMark, listed⟩, templates_eq⟩

/-- The completed contents list completed templates. -/
theorem get?_completed_of_hasClaims (claims : HasClaims contents spec templates) :
    ∃ (spec' : Entries) (templates' : List Entries),
      (completedEntries (templates.map Template.mark) contents).get? "spec" = some (.map spec') ∧
        spec'.get? "volumeClaimTemplates" = some (.list (templates'.map .map)) ∧
        ∀ template ∈ templates', completeTemplate template = template := by
  obtain ⟨⟨specMark, spec_eq⟩, listMark, items_eq⟩ := claims
  refine ⟨_, templates.map fun t =>
    completeTemplate (completedEntries (templates.map Template.mark) t.entries),
    by rw [get?_completedEntries, spec_eq, Option.map_some, completedValue], ?_, ?_⟩
  · rw [get?_completedMapping (by simp), items_eq, Option.map_some, completedValue,
      completedItems_eq_map, List.map_map, List.map_map]
    refine congrArg (some ∘ Value.list) (List.map_congr_left fun t member => ?_)
    rw [Function.comp_apply, Function.comp_apply, Template.document, completedValue,
      if_pos (List.mem_map_of_mem member)]
  · intro template member
    obtain ⟨t, -, rfl⟩ := List.mem_map.1 member
    exact completeTemplate_completeTemplate _

/-- What was completed is left as it is, whether its parts still stand in several places or not. -/
theorem completed_again (done : completed kind contents = .ok contents') {mark : Mark}
    {again : List (Value × Document)} (agrees : (Document.map mark again).Agrees)
    (value_eq : Document.entryValues again = contents') :
    completed kind again = .ok contents' := by
  rw [completed_eq_ok_iff] at done ⊢
  split at done
  · next isSet =>
    obtain ⟨spec, templates, claims, rfl⟩ := done
    obtain ⟨spec', templates', spec_eq, items_eq, complete⟩ := get?_completed_of_hasClaims claims
    obtain ⟨specAgain, listed, claimsAgain, rfl⟩ :=
      exists_hasClaims agrees (value_eq ▸ spec_eq) items_eq
    rw [if_pos isSet]
    refine ⟨specAgain, listed, claimsAgain, value_eq.symm.trans (Eq.symm ?_)⟩
    refine completedEntries_of_complete fun mark entries member template => ?_
    obtain ⟨t, among, rfl⟩ := List.mem_map.1 template
    have same : Document.entryValues entries = t.value :=
      agrees.same (List.mem_cons_of_mem _ member)
        (List.mem_cons_of_mem _ (mem_entryParts_of_hasClaims claimsAgain among))
    rw [same]
    exact complete t.value (List.mem_map_of_mem among)
  · next other => rw [if_neg other, value_eq]

/-!
### The resource of a document
-/

theorem not_described_of_head {mark : Mark} {fault : ResourceFault}
    (read : head (Document.entryValues contents) = .error fault) :
    ¬ Described (.map mark contents) kind := by
  rintro ⟨named, -⟩
  obtain ⟨h, read', -⟩ := exists_head_iff.2 named
  cases read.symm.trans read'

/-- With a head the contents describe a resource if they can be completed. -/
theorem described_iff {mark : Mark} {h : Head}
    (read : head (Document.entryValues contents) = .ok h) :
    Described (.map mark contents) kind ↔
      kind = h.kind ∧ ∃ contents', completed h.kind contents = .ok contents' := by
  rw [exists_completed_iff]
  constructor
  · rintro ⟨named, claims⟩
    obtain ⟨h', read', rfl⟩ := exists_head_iff.2 named
    obtain rfl : h = h' := Except.ok.inj (read.symm.trans read')
    exact ⟨rfl, claims⟩
  · rintro ⟨rfl, claims⟩
    exact .intro (exists_head_iff.1 ⟨h, read, rfl⟩) claims

theorem ofDocument_eq_ok (root file : String) (schemaUrl : Value) {mark : Mark} {h : Head}
    (read : head (Document.entryValues contents) = .ok h)
    (done : completed h.kind contents = .ok contents') :
    ofDocument root file schemaUrl (.map mark contents) =
      (if (labelledComponent? h.labels).isSome then [] else [derivedComponentLine file],
        .ok ⟨file, (labelledComponent? h.labels).getD (componentOfPath root file), h.kind,
          h.apiVersion, h.name, schemaReference schemaUrl h.kind, labelsOf contents',
          contents'⟩) := by
  simp only [ofDocument, read, done]

/-- A document of a resource that was built gives the same resource. -/
theorem ofDocument_again (root file : String) (schemaUrl : Value) {mark : Mark} {h : Head}
    (read : head (Document.entryValues contents) = .ok h)
    (done : completed h.kind contents = .ok contents') {again : Document} (agrees : again.Agrees)
    (value_eq : again.value = .map contents') :
    ofDocument root file schemaUrl again =
      ofDocument root file schemaUrl (.map mark contents) := by
  obtain ⟨markAgain, entries, rfl, rfl⟩ := agrees.exists_map Document.self_mem_parts value_eq
  have heads : ∃ h', head (Document.entryValues entries) = .ok h' ∧ h'.kind = h.kind ∧
      h'.apiVersion = h.apiVersion ∧ h'.name = h.name ∧
      labelledComponent? h'.labels = labelledComponent? h.labels := by
    have made := completed_eq_ok_iff.1 done
    split at made
    · obtain ⟨spec, templates, -, made⟩ := made
      exact made ▸ head_completedEntries read
    · exact ⟨h, made ▸ read, rfl, rfl, rfl, rfl⟩
  obtain ⟨h', read', kind_eq, version_eq, name_eq, component_eq⟩ := heads
  have doneAgain : completed h'.kind entries = .ok (Document.entryValues entries) :=
    kind_eq ▸ completed_again done agrees rfl
  rw [ofDocument_eq_ok root file schemaUrl read' doneAgain,
    ofDocument_eq_ok root file schemaUrl read done, kind_eq, version_eq, name_eq, component_eq]

/-- What building a resource changes. A document is turned into a resource if it describes one; else
the fault names the file. The contents are those of the document, but for the mappings that are
claim templates of a stateful set, which are completed wherever they stand: in the templates alone,
if they stand nowhere else. What is built from the contents is the same again. -/
theorem ofDocument_frame (root file : String) (schemaUrl : Value) (document : Document) :
    match (ofDocument root file schemaUrl document).2 with
    | .error e => (∀ kind, ¬ Described document kind) ∧ e.source = file
    | .ok r => Described document r.kind ∧
        (∃ mark contents, document = .map mark contents ∧
          if r.kind = statefulSetKind then ∃ spec templates, HasClaims contents spec templates ∧
            EntriesBecome (templates.map Template.mark) contents r.contents ∧
            (Alone contents templates →
              CompletedClaims (Document.entryValues contents) r.contents)
          else r.contents = Document.entryValues contents) ∧
        ∀ again : Document, again.Agrees → again.value = .map r.contents →
          ofDocument root file schemaUrl again = ofDocument root file schemaUrl document := by
  cases document with
  | map mark contents =>
      cases read : head (Document.entryValues contents) with
      | error fault =>
          simp only [ofDocument, read]
          exact ⟨fun kind => not_described_of_head read, trivial⟩
      | ok h =>
          cases done : completed h.kind contents with
          | error fault =>
              have refused : ∀ kind, ¬ Described (.map mark contents) kind := by
                intro kind described
                obtain ⟨-, contents', done'⟩ := (described_iff read).1 described
                cases done.symm.trans done'
              simp only [ofDocument, read, done]
              exact ⟨refused, trivial⟩
          | ok contents' =>
              have again (d : Document) (agrees : d.Agrees)
                  (value_eq : d.value = .map contents') : ofDocument root file schemaUrl d =
                    ofDocument root file schemaUrl (.map mark contents) :=
                ofDocument_again root file schemaUrl read done agrees value_eq
              rw [ofDocument_eq_ok root file schemaUrl read done] at again ⊢
              refine ⟨(described_iff read).2 ⟨rfl, contents', done⟩, ⟨mark, contents, rfl, ?_⟩,
                again⟩
              have made := completed_eq_ok_iff.1 done
              split at made
              · next isSet =>
                obtain ⟨spec, templates, claims, rfl⟩ := made
                rw [if_pos isSet]
                exact ⟨spec, templates, claims, entriesBecome_completedEntries contents,
                  completedClaims_of_alone claims⟩
              · next other => rw [if_neg other, made]
  | _ =>
      refine ⟨fun kind described => ?_, rfl⟩
      cases described

/-- A stateful set with one claim template, and with another mapping that has a mark of its own or
is the template too. -/
def oneTemplate (other : Mark) : List (Value × Document) :=
  [(.text "kind", .scalar (.text "StatefulSet")), (.text "apiVersion", .scalar (.text "apps/v1")),
    (.text "metadata", .map [1] [(.text "name", .scalar (.text "db"))]), (.text "x", .map other []),
    (.text "spec", .map [2] [(.text "volumeClaimTemplates", .list [3] [.map [4] []])])]

theorem ofDocument_frame_separate : Alone (oneTemplate [5]) [⟨[4], []⟩] ∧
    ∃ r, (ofDocument "/m" "/m/db.yaml" .null (.map [0] (oneTemplate [5]))).2 = .ok r ∧
      CompletedClaims (Document.entryValues (oneTemplate [5])) r.contents ∧
      ofDocument "/m" "/m/db.yaml" .null (.ofValue (.map r.contents)) =
        ofDocument "/m" "/m/db.yaml" .null (.map [0] (oneTemplate [5])) := by
  have alone : Alone (oneTemplate [5]) [⟨[4], []⟩] := by
    unfold Alone
    decide
  refine ⟨alone, ?_⟩
  have frame := ofDocument_frame "/m" "/m/db.yaml" .null (.map [0] (oneTemplate [5]))
  obtain ⟨r, made, isSet⟩ : ∃ r, (ofDocument "/m" "/m/db.yaml" .null
      (.map [0] (oneTemplate [5]))).2 = .ok r ∧ r.kind = statefulSetKind := ⟨_, rfl, rfl⟩
  rw [made] at frame
  obtain ⟨-, ⟨mark, contents, same, framed⟩, again⟩ := frame
  cases same
  rw [if_pos isSet] at framed
  obtain ⟨spec, templates, ⟨⟨specMark, spec_eq⟩, listMark, items_eq⟩, -, separate⟩ := framed
  cases spec_eq
  obtain ⟨t, rfl, template_eq⟩ : ∃ t, templates = [t] ∧ t.document = .map [4] [] := by
    have listed := (Document.list.inj (Option.some.inj items_eq)).2
    obtain ⟨t, others, rfl, first, rest⟩ := List.map_eq_cons_iff.1 listed.symm
    exact ⟨t, by rw [List.map_eq_nil_iff.1 rest], first⟩
  obtain ⟨templateMark, entries⟩ := t
  cases template_eq
  exact ⟨r, made, separate alone,
    again _ (Document.agrees_ofValue _) (Document.value_ofValueAt _ _)⟩

/-- A claim template that stands under `x` too is completed there. -/
theorem ofDocument_shared : (Document.map [0] (oneTemplate [4])).Agrees ∧
    Described (.map [0] (oneTemplate [4])) statefulSetKind ∧
    ∃ r, (ofDocument "/m" "/m/db.yaml" .null (.map [0] (oneTemplate [4]))).2 = .ok r ∧
      ¬ CompletedClaims (Document.entryValues (oneTemplate [4])) r.contents := by
  refine ⟨⟨?_, ?_⟩, ?_, _, rfl, ?_⟩
  · simp [Document.parts, Document.entryParts, Document.itemParts, oneTemplate]
  · intro mark entries entries' first second
    simp only [Document.parts, Document.entryParts, Document.itemParts, oneTemplate,
      List.mem_cons, List.mem_append, List.not_mem_nil, Document.map.injEq, reduceCtorEq, or_false,
      false_or] at first second
    obtain ⟨rfl, rfl⟩ | ⟨rfl, rfl⟩ | ⟨rfl, rfl⟩ | ⟨rfl, rfl⟩ | ⟨rfl, rfl⟩ := first <;>
      simp_all
  · exact .intro ⟨rfl, ⟨_, rfl⟩, _, rfl, _, rfl⟩ fun _ => ⟨_, [⟨[4], []⟩], ⟨_, rfl⟩, _, rfl⟩
  · rintro ⟨spec, spec', templates, templates', replaced, -⟩
    have same := replaced.get?_of_ne "x" (by decide)
    cases same

end Resource

end TypedManifests
