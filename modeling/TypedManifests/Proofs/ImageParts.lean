/-
Module: TypedManifests.Proofs.ImageParts
Purpose: Taking an image reference apart and putting its parts together, in both orders. A reference
  is got back from its parts unless a colon or an at sign has nothing behind it where a tag or a
  digest should be, and parts are got back from their text if none of them reads as another one.
Main exports: toList_toText, ofText_eq, toList_toText_ofText, joined_parts_eq_iff, WellFormed,
  WellFormed.ofText_toText, parts_of_joined
-/
import TypedManifests.ImageReference
import TypedManifests.Proofs.Cuts

namespace TypedManifests

namespace ImageReference

open Text

/-!
### Parts with their separators
-/

/-- What a registry adds to the text of a reference. -/
def registryText : Option String → List Char
  | none => []
  | some registry => registry.toList ++ ['/']

/-- What a tag or a digest adds to the text of a reference. -/
def partText (separator : Char) : Option String → List Char
  | none => []
  | some part => separator :: part.toList

theorem toList_toText (r : ImageReference) :
    r.toText.toList =
      registryText r.registry ++ r.repository.toList ++ partText ':' r.tag ++
        partText '@' r.digest := by
  obtain ⟨registry, repository, tag, digest⟩ := r
  cases registry <;> cases tag <;> cases digest <;> simp [toText, registryText, partText]

/-- The parts that a mapping holds; there is no digest where the mapping has none. -/
def ofValue? (v : Value) : Option ImageReference := do
  let entries ← v.entries?
  let part (key : String) : Option String := (entries.get? key).bind Value.text?
  let repository ← part "repository"
  return { registry := part "registry", repository, tag := part "tag", digest := part "digest" }

theorem ofValue?_toValue (withDigest : Bool) (r : ImageReference) :
    ofValue? (r.toValue withDigest) =
      some (if withDigest then r else { r with digest := none }) := by
  obtain ⟨registry, repository, tag, digest⟩ := r
  cases withDigest <;> cases registry <;> cases tag <;> cases digest <;> rfl

/-- A reference up to its digest: what stands before the first `@`. -/
def beforeDigest (reference : String) : List Char := reference.toList.takeWhile (· ≠ '@')

/-- The digest of a reference, with the first `@` before it. -/
def fromDigest (reference : String) : List Char := reference.toList.dropWhile (· ≠ '@')

theorem beforeDigest_append_fromDigest (reference : String) :
    beforeDigest reference ++ fromDigest reference = reference.toList :=
  List.takeWhile_append_dropWhile

/-- No digest, or an `@` and the digest. -/
theorem fromDigest_cases (reference : String) :
    fromDigest reference = [] ∨ ∃ digest, fromDigest reference = '@' :: digest := by
  cases split : fromDigest reference with
  | nil => exact Or.inl rfl
  | cons c digest =>
      have stops := List.head?_dropWhile_not (fun d : Char => decide (d ≠ '@')) reference.toList
      rw [show reference.toList.dropWhile _ = c :: digest from split] at stops
      obtain rfl : c = '@' := by simpa using stops
      exact Or.inr ⟨digest, rfl⟩

/-- The digest is cut off at the first `@`. -/
theorem ofText_eq (reference : String) :
    ofText reference =
      { registry := (splitRegistry (splitTag (beforeDigest reference)).1).1
        repository := String.ofList (splitRegistry (splitTag (beforeDigest reference)).1).2
        tag := (splitTag (beforeDigest reference)).2
        digest := nonEmpty? (fromDigest reference).tail } := by
  have whole := beforeDigest_append_fromDigest reference
  have cut : (splitFirst? '@' reference.toList).getD (reference.toList, []) =
      (beforeDigest reference, (fromDigest reference).tail) := by
    have absent : '@' ∉ beforeDigest reference := by
      intro member
      have := List.mem_takeWhile_imp member
      simp at this
    rcases fromDigest_cases reference with without | ⟨digest, behind⟩
    · rw [without, List.append_nil] at whole
      rw [← whole, splitFirst?_of_notMem absent, without]
      rfl
    · rw [behind] at whole
      rw [← whole, splitFirst?_append absent, behind]
      rfl
  rw [ofText, cut]

/-!
### Putting together what was taken apart
-/

/-- Cutting off the registry loses nothing. -/
theorem registryText_splitRegistry (text : List Char) :
    registryText (splitRegistry text).1 ++ (splitRegistry text).2 = text := by
  rw [splitRegistry]
  split
  · next first rest cut =>
    split
    · rw [splitFirst?_eq_some cut]
      simp [registryText]
    · rfl
  · rfl

/-- Of a text that ends in a colon, the colon is left out. -/
def withoutLastColon (text : List Char) : List Char :=
  if text.getLast? = some ':' then text.dropLast else text

/-- Cutting off the tag loses a colon at the end and nothing else. -/
theorem splitTag_partText (text : List Char) :
    (splitTag text).1 ++ partText ':' (splitTag text).2 = withoutLastColon text := by
  by_cases present : ':' ∈ text
  · obtain ⟨before, after, rfl, absent⟩ := exists_lastCut present
    rw [splitTag, splitLast?_append before absent, withoutLastColon]
    cases after with
    | nil => simp [nonEmpty?, partText]
    | cons c after =>
        have last : (before ++ ':' :: c :: after).getLast? ≠ some ':' := by
          intro isLast
          refine absent (List.mem_of_getLast? ?_)
          simpa [List.getLast?_append, List.getLast?_cons] using isLast
        rw [if_neg last]
        by_cases slash : '/' ∈ c :: after
        · simp [slash, partText]
        · simp [slash, partText, nonEmpty?]
  · have last : text.getLast? ≠ some ':' := fun isLast => present (List.mem_of_getLast? isLast)
    simp [splitTag, splitLast?_of_notMem present, withoutLastColon, last, partText]

theorem withoutLastColon_eq_self_iff {text : List Char} :
    withoutLastColon text = text ↔ text.getLast? ≠ some ':' := by
  rw [withoutLastColon]
  split
  · next isLast =>
    have nonempty : text ≠ [] := by
      rintro rfl
      cases isLast
    have shorter := List.length_pos_iff.2 nonempty
    refine iff_of_false (fun same => ?_) (not_not.2 isLast)
    have lengths := congrArg List.length same
    rw [List.length_dropLast] at lengths
    omega
  · next noLast => exact iff_of_true rfl noLast

theorem length_withoutLastColon_le (text : List Char) :
    (withoutLastColon text).length ≤ text.length := by
  rw [withoutLastColon]
  split <;> simp

/-- Of a digest, only an `@` with nothing behind it is lost. -/
theorem partText_digest (reference : String) :
    partText '@' (ofText reference).digest =
      if fromDigest reference = ['@'] then [] else fromDigest reference := by
  rw [ofText_eq]
  rcases fromDigest_cases reference with without | ⟨digest, behind⟩
  · rw [without]
    rfl
  · rw [behind]
    cases digest <;> simp [nonEmpty?, partText]

/-- The parts of a reference up to its digest, put together again, with any digest behind them. -/
theorem toList_toText_ofText (reference : String) (digest : Option String) :
    ({ ofText reference with digest } : ImageReference).toText.toList =
      withoutLastColon (beforeDigest reference) ++ partText '@' digest := by
  rw [toList_toText, ofText_eq]
  simp only [String.toList_ofList]
  rw [registryText_splitRegistry, splitTag_partText]

/-- Two texts stay as they are together only if each one does, when neither gets longer. -/
theorem append_eq_append_iff_of_length_le {α : Type} {first second first' second' : List α}
    (firstLe : first'.length ≤ first.length) (secondLe : second'.length ≤ second.length) :
    first' ++ second' = first ++ second ↔ first' = first ∧ second' = second := by
  constructor
  · intro same
    have lengths := congrArg List.length same
    rw [List.length_append, List.length_append] at lengths
    exact List.append_inj same (by omega)
  · rintro ⟨rfl, rfl⟩
    rfl

/-- Taking a reference apart can be undone exactly if what stands before the digest does not end in
a colon and an `@`, if there is one, is not the last character. Without the digest, what stands
before it is got back exactly if it does not end in a colon. -/
theorem joined_parts_eq_iff (reference : String) :
    ((ofValue? ((ofText reference).toValue true)).map toText = some reference ↔
      (beforeDigest reference).getLast? ≠ some ':' ∧ fromDigest reference ≠ ['@']) ∧
    ((ofValue? ((ofText reference).toValue false)).map toText =
        some (String.ofList (beforeDigest reference)) ↔
      (beforeDigest reference).getLast? ≠ some ':') := by
  have whole := toList_toText_ofText reference (ofText reference).digest
  have named := toList_toText_ofText reference none
  rw [partText_digest] at whole
  rw [partText, List.append_nil] at named
  rw [ofValue?_toValue, ofValue?_toValue, Option.map_some, Option.map_some, Option.some.injEq,
    Option.some.injEq, ← String.toList_inj, ← String.toList_inj, String.toList_ofList]
  simp only [if_true, Bool.false_eq_true, if_false]
  rw [whole, named, ← beforeDigest_append_fromDigest reference,
    append_eq_append_iff_of_length_le (length_withoutLastColon_le _) (by split <;> simp),
    withoutLastColon_eq_self_iff]
  refine ⟨and_congr_right fun _ => ?_, Iff.rfl⟩
  split
  · next alone => simp [alone]
  · next more => exact iff_of_true rfl more

/-!
### Taking apart what was put together
-/

/-- Every part can be told from the others by the separators. A registry looks like a host, a
repository without a registry does not begin like one, and neither tag nor digest is empty. -/
structure WellFormed (r : ImageReference) : Prop where
  registry : ∀ registry ∈ r.registry, '/' ∉ registry.toList ∧ '@' ∉ registry.toList ∧
    ('.' ∈ registry.toList ∨ ':' ∈ registry.toList ∨ registry = "localhost")
  repository : ':' ∉ r.repository.toList ∧ '@' ∉ r.repository.toList
  firstSegment : r.registry = none → '/' ∈ r.repository.toList →
    '.' ∉ r.repository.toList.takeWhile (· ≠ '/') ∧
      r.repository.toList.takeWhile (· ≠ '/') ≠ "localhost".toList
  tag : ∀ tag ∈ r.tag,
    tag ≠ "" ∧ '/' ∉ tag.toList ∧ ':' ∉ tag.toList ∧ '@' ∉ tag.toList
  digest : ∀ digest ∈ r.digest, digest ≠ ""

theorem nonEmpty?_toList {part : String} (nonempty : part ≠ "") :
    nonEmpty? part.toList = some part := by
  simp [nonEmpty?, nonempty]

theorem isRegistry_iff {segment : List Char} :
    isRegistry segment = true ↔
      '.' ∈ segment ∨ ':' ∈ segment ∨ segment = "localhost".toList := by
  simp only [isRegistry, Bool.or_eq_true, decide_eq_true_eq, or_assoc]

namespace WellFormed

variable {r : ImageReference}

/-- A repository without a registry is not taken for one with a registry. -/
theorem not_isRegistry {first rest : List Char} (formed : r.WellFormed)
    (noRegistry : r.registry = none) (split : r.repository.toList = first ++ '/' :: rest)
    (absent : '/' ∉ first) : isRegistry first = false := by
  have segment : r.repository.toList.takeWhile (· ≠ '/') = first := by
    rw [split]
    exact takeWhile_ne_append absent rest
  have noColon : ':' ∉ first := fun member =>
    formed.repository.1 (split ▸ List.mem_append_left _ member)
  obtain ⟨noDot, notLocal⟩ := formed.firstSegment noRegistry (by simp [split])
  rw [segment] at noDot notLocal
  rw [Bool.eq_false_iff, Ne, isRegistry_iff, not_or, not_or]
  exact ⟨noDot, noColon, notLocal⟩

/-- The registry is cut off again. -/
theorem splitRegistry_eq (formed : r.WellFormed) :
    splitRegistry (registryText r.registry ++ r.repository.toList) =
      (r.registry, r.repository.toList) := by
  cases registryEq : r.registry with
  | some registry =>
      obtain ⟨noSlash, -, host⟩ := formed.registry registry registryEq
      rw [← String.toList_inj, ← isRegistry_iff] at host
      rw [registryText, List.append_assoc, List.singleton_append, splitRegistry,
        splitFirst?_append noSlash]
      simp only [host, if_true, String.ofList_toList]
  | none =>
      rw [registryText, List.nil_append, splitRegistry]
      by_cases slash : '/' ∈ r.repository.toList
      · obtain ⟨first, rest, split, absent⟩ := List.eq_append_cons_of_mem slash
        rw [split, splitFirst?_append absent]
        simp only [formed.not_isRegistry registryEq split absent, Bool.false_eq_true, if_false]
      · rw [splitFirst?_of_notMem slash]

/-- The registry and the repository hold no colon behind which no slash comes. -/
theorem slash_of_colon {before after : List Char} (formed : r.WellFormed)
    (split : registryText r.registry ++ r.repository.toList = before ++ ':' :: after) :
    '/' ∈ after := by
  have noColon := formed.repository.1
  cases registryEq : r.registry with
  | none =>
      rw [registryEq, registryText, List.nil_append] at split
      simp [split] at noColon
  | some registry =>
      rw [registryEq, registryText, List.append_assoc, List.singleton_append] at split
      rcases List.append_eq_append_iff.1 split with ⟨between, -, behind⟩ | ⟨between, -, behind⟩
      · -- The colon stands behind the slash, in the repository.
        have member : ':' ∈ '/' :: r.repository.toList := by simp [behind]
        simp [noColon] at member
      · have member : '/' ∈ ':' :: after := by simp [behind]
        simpa using member

/-- The tag is cut off again. -/
theorem splitTag_eq (formed : r.WellFormed) :
    splitTag (registryText r.registry ++ r.repository.toList ++ partText ':' r.tag) =
      (registryText r.registry ++ r.repository.toList, r.tag) := by
  cases tagEq : r.tag with
  | some tag =>
      obtain ⟨nonempty, noSlash, noColon, -⟩ := formed.tag tag tagEq
      rw [partText, splitTag, splitLast?_append _ noColon]
      simp only [noSlash, if_false, nonEmpty?_toList nonempty]
  | none =>
      rw [partText, List.append_nil, splitTag]
      by_cases colon : ':' ∈ registryText r.registry ++ r.repository.toList
      · obtain ⟨before, after, split, absent⟩ := exists_lastCut colon
        have slash := formed.slash_of_colon split
        rw [split, splitLast?_append before absent]
        simp only [slash, if_true]
      · rw [splitLast?_of_notMem colon]

/-- No part but the digest holds an `@`. -/
theorem at_notMem (formed : r.WellFormed) :
    '@' ∉ registryText r.registry ++ r.repository.toList ++ partText ':' r.tag := by
  rw [List.mem_append, List.mem_append, not_or, not_or]
  refine ⟨⟨?_, formed.repository.2⟩, ?_⟩
  · cases registryEq : r.registry with
    | none => simp [registryText]
    | some registry => simp [registryText, (formed.registry registry registryEq).2.1]
  · cases tagEq : r.tag with
    | none => simp [partText]
    | some tag => simp [partText, (formed.tag tag tagEq).2.2.2]

/-- The digest is cut off again. -/
theorem digest_eq (formed : r.WellFormed) :
    beforeDigest r.toText = registryText r.registry ++ r.repository.toList ++ partText ':' r.tag ∧
      nonEmpty? (fromDigest r.toText).tail = r.digest := by
  have free := formed.at_notMem
  have whole := beforeDigest_append_fromDigest r.toText
  have before : beforeDigest r.toText =
      registryText r.registry ++ r.repository.toList ++ partText ':' r.tag := by
    rw [beforeDigest, toList_toText]
    cases r.digest with
    | none =>
        rw [partText, List.append_nil]
        exact takeWhile_ne_of_notMem free
    | some digest => exact takeWhile_ne_append free digest.toList
  rw [before, toList_toText, List.append_cancel_left_eq] at whole
  refine ⟨before, ?_⟩
  rw [whole]
  cases digestEq : r.digest with
  | none => rfl
  | some digest => exact nonEmpty?_toList (formed.digest digest digestEq)

theorem ofText_toText (formed : r.WellFormed) : ofText r.toText = r := by
  rw [ofText_eq, formed.digest_eq.1, formed.digest_eq.2, formed.splitTag_eq,
    formed.splitRegistry_eq, String.ofList_toList]

end WellFormed

/-- Taking apart the text of a well-formed reference gives back its four parts, and without the
digest the first three. -/
theorem parts_of_joined {r : ImageReference} (formed : r.WellFormed) :
    (ofText r.toText).toValue true =
        .ofFields [("registry", .ofText? r.registry), ("repository", .text r.repository),
          ("tag", .ofText? r.tag), ("digest", .ofText? r.digest)] ∧
      (ofText r.toText).toValue false =
        .ofFields [("registry", .ofText? r.registry), ("repository", .text r.repository),
          ("tag", .ofText? r.tag)] := by
  rw [formed.ofText_toText]
  exact ⟨rfl, rfl⟩

/-- A registry with a port, a repository of two segments, a tag, and a digest with an `@` in it. -/
theorem parts_of_joined_port :
    let r : ImageReference := ⟨some "localhost:5000", "org/app", some "v1.2", some "sha256:a@b"⟩
    let reference := "localhost:5000/org/app:v1.2@sha256:a@b"
    r.WellFormed ∧ r.toText = reference ∧
      (ofText reference).toValue true =
        .ofFields [("registry", .text "localhost:5000"), ("repository", .text "org/app"),
          ("tag", .text "v1.2"), ("digest", .text "sha256:a@b")] ∧
      (ofText reference).toValue false =
        .ofFields [("registry", .text "localhost:5000"), ("repository", .text "org/app"),
          ("tag", .text "v1.2")] := by
  intro r reference
  have formed : r.WellFormed := by constructor <;> decide
  have text : r.toText = reference := by decide
  refine ⟨formed, text, ?_⟩
  rw [← text]
  exact parts_of_joined formed

end ImageReference

end TypedManifests
