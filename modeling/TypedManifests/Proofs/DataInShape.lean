/-
Module: TypedManifests.Proofs.DataInShape
Purpose: Data that is in the shape of a type already. Such data is what reshaping gives, and what it
  leaves alone; so reshaping a second time changes nothing. Data that fits the type is in its shape,
  even where the type has the record of an image reference or the data a list that could be keyed.
Main exports: Entries.valueAt?, valueAt?_mapEntries, InShape, InShape.conform_eq, inShape_conform,
  conform_eq_self_iff, inShape_of_fits, conformData_again, conformData_of_fits
-/
import TypedManifests.Proofs.Agreement
import TypedManifests.Proofs.ReshapedParts

namespace TypedManifests

open TypedManifests.TypeExpr

/-!
### The entry that counts

Several keys of a mapping may have one text. A field with this label is about the last of them.
-/

namespace Entries

/-- The value of the last entry whose key has the text. -/
def valueAt? (entries : Entries) (text : String) : Option Value :=
  (entries.findRev? fun entry => entry.1.keyText = text).map Prod.snd

theorem valueAt?_cons (key value : Value) (rest : Entries) (text : String) :
    valueAt? ((key, value) :: rest) text =
      (rest.valueAt? text).or (if key.keyText = text then some value else none) := by
  rw [valueAt?, valueAt?, List.findRev?]
  cases rest.findRev? fun entry => entry.1.keyText = text with
  | some later => rfl
  | none => by_cases here : key.keyText = text <;> simp [here]

theorem any_keyText (entries : Entries) (text : String) :
    (entries.any fun entry => entry.1.keyText = text) = (entries.valueAt? text).isSome := by
  induction entries with
  | nil => rfl
  | cons entry rest ih =>
      obtain ⟨key, value⟩ := entry
      rw [List.any_cons, ih, valueAt?_cons]
      by_cases here : key.keyText = text <;> simp [here]

/-- The value that counts is that of some entry. -/
theorem exists_of_valueAt? {text : String} {value : Value} : ∀ {entries : Entries},
    entries.valueAt? text = some value →
      ∃ entry ∈ entries, entry.1.keyText = text ∧ entry.2 = value
  | (key, first) :: rest, counts => by
      rw [valueAt?_cons, Option.or_eq_some_iff] at counts
      rcases counts with later | ⟨_, here⟩
      · obtain ⟨entry, member, found⟩ := exists_of_valueAt? later
        exact ⟨entry, List.mem_cons_of_mem _ member, found⟩
      · split at here
        · next same =>
          cases here
          exact ⟨_, List.mem_cons_self, same, rfl⟩
        · cases here

end Entries

namespace Reshaping

theorem mapEntries_cons (f : String → Value → Value) (key value : Value) (rest : Entries) :
    mapEntries f ((key, value) :: rest) =
      (key, if (rest.valueAt? key.keyText).isSome then value else f key.keyText value) ::
        mapEntries f rest := by
  rw [mapEntries, Entries.any_keyText]

/-- Under every text the value that counts is mapped. -/
theorem valueAt?_mapEntries (f : String → Value → Value) (text : String) : ∀ entries : Entries,
    Entries.valueAt? (mapEntries f entries) text = (entries.valueAt? text).map (f text)
  | [] => rfl
  | (key, value) :: rest => by
      rw [mapEntries_cons, Entries.valueAt?_cons, Entries.valueAt?_cons,
        valueAt?_mapEntries f text rest]
      cases later : Entries.valueAt? rest text with
      | some other => rfl
      | none =>
          by_cases here : key.keyText = text
          · simp [here, later]
          · simp [here]

/-- A mapping stays if all values that count do. -/
theorem mapEntries_eq_self {f : String → Value → Value} : ∀ {entries : Entries},
    (∀ text value, entries.valueAt? text = some value → f text value = value) →
      mapEntries f entries = entries
  | [], _ => rfl
  | (key, value) :: rest, fixed => by
      have others : mapEntries f rest = rest := by
        refine mapEntries_eq_self fun text later found => fixed text later ?_
        rw [Entries.valueAt?_cons, found, Option.some_or]
      rw [mapEntries_cons, others]
      cases later : Entries.valueAt? rest key.keyText with
      | some other => rfl
      | none =>
          have here := fixed key.keyText value (by simp [Entries.valueAt?_cons, later])
          simp [here]

/-- A value under a label is reshaped by the first field with the label. -/
theorem conformAt_eq (r : Reshaping) (name : String) (value : Value) : ∀ fields : Fields,
    r.conformAt fields name value =
      ((field? fields name).map fun t => r.conform (some name) t value).getD value
  | [] => by
      rw [conformAt]
      rfl
  | (label, t) :: rest => by
      rw [conformAt, conformAt_eq r name value rest, field?, field?, List.find?_cons]
      by_cases here : label = name <;> simp [here]

theorem conform_noList (r : Reshaping) (label : Option String) (t : TypeExpr) {value : Value}
    (other : ∀ items, value ≠ .list items) : r.conform label (.list t) value = value := by
  cases value with
  | null => exact r.conform_null label (.list t)
  | list items => exact absurd rfl (other items)
  | _ => rw [conform] <;> simp

theorem conform_plain (r : Reshaping) (label : Option String) (t : TypeExpr) {value : Value}
    (plain : value.IsPlain) : r.conform label t value = value :=
  reshaped_plain plain ⟨t, rfl⟩

/-!
### Data in shape
-/

/-- The data that stands under a label has the shape of a type. Where the type has a record, of a
mapping only the values that count are asked for their shape; a list must not be keyed, and a text
must not have a label for which some convention makes this record. -/
inductive InShape (r : Reshaping) : Option String → TypeExpr → Value → Prop where
  | null {label : Option String} {t : TypeExpr} : InShape r label t .null
  | scalar {label : Option String} {name : String} {value : Value} :
      InShape r label (.scalar name) value
  | optional {label : Option String} {t : TypeExpr} {value : Value}
      (inner : InShape r label t value) : InShape r label (.optional t) value
  | items {label : Option String} {element : TypeExpr} {items : List Value}
      (all : ∀ item ∈ items, InShape r none element item) :
      InShape r label (.list element) (.list items)
  | noList {label : Option String} {element : TypeExpr} {value : Value}
      (other : ∀ items, value ≠ .list items) : InShape r label (.list element) value
  | parts {label : Option String} {fields : List (String × TypeExpr)}
      {entries : List (Value × Value)}
      (each : ∀ name t value, field? fields name = some t →
        Entries.valueAt? entries name = some value → InShape r (some name) t value) :
      InShape r label (.record fields) (.map entries)
  | unkeyed {label : Option String} {fields : List (String × TypeExpr)} {items : List Value}
      (unkeyed : KeyedList.of? r.keyFields items = none) :
      InShape r label (.record fields) (.list items)
  | text {label : Option String} {fields : List (String × TypeExpr)} {s : String}
      (uncovered : ∀ l ∈ label, ∀ c ∈ r.conventions, l ∈ c.labels →
        c.replacement ≠ .record fields) :
      InShape r label (.record fields) (.text s)
  | plain {label : Option String} {fields : List (String × TypeExpr)} {value : Value}
      (plain : value.IsPlain) : InShape r label (.record fields) value

variable {r : Reshaping}

theorem text_of_uncovered {label : Option String} {type : TypeExpr} (s : String)
    (uncovered : ∀ l ∈ label, ∀ c ∈ r.conventions, l ∈ c.labels → c.replacement ≠ type) :
    r.text label type s = .text s := by
  cases label with
  | none => rfl
  | some l =>
      have none : (r.conventions.find? fun c =>
          c.applies l .text && c.replacement = type) = none := by
        rw [List.find?_eq_none]
        intro c member
        simpa [ImageConvention.applies] using uncovered l rfl c member
      simp only [text, none]

/-- What is in shape stays. The induction is on the reasons for which it is in shape. -/
theorem InShape.conform_eq {label : Option String} {t : TypeExpr} {value : Value}
    (inShape : r.InShape label t value) : r.conform label t value = value := by
  induction inShape with
  | null => exact r.conform_null _ _
  | scalar => exact r.conform_scalar _ _ _
  | optional _ ih => rw [conform_optional, ih]
  | items _ ih =>
      rw [conform_list, Value.list.injEq]
      exact (List.map_congr_left ih).trans (List.map_id _)
  | noList other => exact r.conform_noList _ _ other
  | parts _ ih =>
      rw [conform, Value.map.injEq]
      refine mapEntries_eq_self fun name value counts => ?_
      rw [conformAt_eq]
      cases typed : field? _ name with
      | none => rfl
      | some t => exact ih name t value typed counts
  | unkeyed unkeyed => rw [conform, unkeyed]
  | text uncovered => rw [conform_text, text_of_uncovered _ uncovered]
  | plain plain => exact r.conform_plain _ _ plain

/-- Data that fits a type is in its shape. -/
theorem inShape_of_fits {admits : String → Value → Prop} {t : TypeExpr} {value : Value}
    (fits : Fits admits t value) : ∀ label, r.InShape label t value := by
  induction fits with
  | text s => exact fun _ => .scalar
  | scalar => exact fun _ => .scalar
  | null => exact fun _ => .null
  | present _ ih => exact fun label => .optional (ih label)
  | list _ ih => exact fun _ => .items fun item member => ih item member none
  | record _ _ _ ih =>
      refine fun _ => .parts fun name t value typed counts => ?_
      obtain ⟨entry, member, same, rfl⟩ := Entries.exists_of_valueAt? counts
      exact ih _ (mem_of_field? typed) entry member same (some name)

/-- The parts of an image reference are in the shape of its type. -/
theorem inShape_imageReference (label : Option String) (withDigest : Bool)
    (reference : ImageReference) :
    r.InShape label (ImageReference.type withDigest) (reference.toValue withDigest) :=
  inShape_of_fits (@fits_imageReference (fun _ _ => False) withDigest reference) label

/-- A text under a label is taken apart into the shape of a record, or it stays. -/
theorem inShape_text (r : Reshaping) (label : Option String) (fields : Fields) (s : String) :
    r.InShape label (.record fields) (r.text label (.record fields) s) := by
  by_cases covered : ∃ l ∈ label, ∃ c ∈ r.conventions, l ∈ c.labels ∧
      c.replacement = .record fields
  · obtain ⟨l, rfl, c, member, listed, made⟩ := covered
    have applies : c.applies l .text = true := by simp [ImageConvention.applies, listed]
    obtain ⟨c', same, parts⟩ := text_of_applies member applies s
    rw [← made, parts, ← same]
    exact inShape_imageReference _ c'.withDigest (ImageReference.ofText s)
  · have uncovered : ∀ l ∈ label, ∀ c ∈ r.conventions, l ∈ c.labels →
        c.replacement ≠ .record fields :=
      fun l here c member listed made => covered ⟨l, here, c, member, listed, made⟩
    rw [text_of_uncovered s uncovered]
    exact .text uncovered

/-- A reshaped mapping is in the shape of a record if what its fields reshape is in their shape. -/
theorem inShape_conform_map (r : Reshaping) (label : Option String) {fields : Fields}
    (inside : ∀ field ∈ fields, ∀ (label : Option String) (value : Value),
      r.InShape label field.2 (r.conform label field.2 value)) (entries : Entries) :
    r.InShape label (.record fields) (r.conform label (.record fields) (.map entries)) := by
  rw [conform]
  refine .parts fun name t shaped typed counts => ?_
  rw [valueAt?_mapEntries, Option.map_eq_some_iff] at counts
  obtain ⟨given, _, rfl⟩ := counts
  rw [conformAt_eq, typed, Option.map_some, Option.getD_some]
  exact inside _ (mem_of_field? typed) (some name) given

/-- What reshaping gives is in shape. The induction is on the type; a keyed list is reshaped like
the mapping of its items by name. -/
theorem inShape_conform (r : Reshaping) (t : TypeExpr) : ∀ (label : Option String) (value : Value),
    r.InShape label t (r.conform label t value) := by
  induction t with
  | scalar name => exact fun _ _ => .scalar
  | optional inner ih =>
      intro label value
      rw [conform_optional]
      exact .optional (ih label value)
  | list element ih =>
      intro label value
      by_cases isList : ∃ items, value = .list items
      · obtain ⟨items, rfl⟩ := isList
        rw [conform_list]
        refine .items fun item listed => ?_
        obtain ⟨given, _, rfl⟩ := List.mem_map.1 listed
        exact ih none given
      · have other : ∀ items, value ≠ .list items := fun items eq => isList ⟨items, eq⟩
        rw [r.conform_noList label element other]
        exact .noList other
  | record fields ih =>
      intro label value
      cases value with
      | map entries => exact r.inShape_conform_map label ih entries
      | list items =>
          cases isKeyed : KeyedList.of? r.keyFields items with
          | none =>
              rw [conform, isKeyed]
              exact .unkeyed isKeyed
          | some keyed =>
              rw [r.conform_keyed label fields isKeyed]
              exact r.inShape_conform_map label ih _
      | text s =>
          rw [conform_text]
          exact r.inShape_text label fields s
      | _ =>
          rw [conform_plain]
          · exact .plain trivial
          · trivial

/-- Reshaping changes nothing exactly where the data is in shape. -/
theorem conform_eq_self_iff {label : Option String} {t : TypeExpr} {value : Value} :
    r.conform label t value = value ↔ r.InShape label t value :=
  ⟨fun same => same ▸ r.inShape_conform t label value, fun inShape => inShape.conform_eq⟩

end Reshaping

/-- Whatever the data is, reshaping gives data in shape, and reshaping that again changes nothing.
-/
theorem conformData_again (conventions : List ImageConvention) (keyFields : List String)
    (t : TypeExpr) (data : Value) :
    let shaped := conformData conventions keyFields t data
    conformData conventions keyFields t shaped = shaped ∧
      Reshaping.InShape ⟨conventions, keyFields⟩ none t shaped := by
  intro shaped
  have inShape := Reshaping.inShape_conform ⟨conventions, keyFields⟩ t none data
  exact ⟨Reshaping.conform_eq_self_iff.2 inShape, inShape⟩

/-- Data that fits a type is not changed by reshaping it by this type, whatever the conventions and
the key fields are. -/
theorem conformData_of_fits (admits : String → Value → Prop) (conventions : List ImageConvention)
    (keyFields : List String) {t : TypeExpr} {data : Value} (fits : Fits admits t data) :
    conformData conventions keyFields t data = data :=
  (Reshaping.inShape_of_fits fits none).conform_eq

/-- The type has the record of an image reference under an image label, and the data a list with a
key field, in a field and in an entry for which there is no field. -/
theorem conformData_of_fits_untouched :
    let admits : String → Value → Prop := fun _ value => ∃ i, value = .int i
    let reference := ImageReference.ofText "ghcr.io/a/b:1"
    let port (name : String) : Value := .ofFields [("name", .text name), ("port", .int 80)]
    let ports : List Value := [port "http", port "https"]
    let data : Value := .ofFields
      [("image", reference.toValue false), ("ports", .list ports), ("more", .list ports)]
    let portType : TypeExpr := .record [("name", .text), ("port", .scalar "Natural")]
    let t : TypeExpr := .record [("image", ImageReference.type false), ("ports", .list portType),
      ("note", .optional .text)]
    KeyedList.of? ["name"] ports = some ⟨"name", ["http", "https"]⟩ ∧ Fits admits t data ∧
      conformData [⟨["image"], false⟩] ["name"] t data = data := by
  intro admits reference port ports data portType t
  have portFits : ∀ name, Fits admits portType (port name) := by
    intro name
    have first : Fits admits .text (.text name) := .text name
    have second : Fits admits (.scalar "Natural") (.int 80) :=
      .scalar (by decide) trivial ⟨80, rfl⟩
    exact fits_ofFields (by simp) (by simp_all) (by simp)
  have fits : Fits admits t data := by
    have image : Fits admits (ImageReference.type false) (reference.toValue false) :=
      fits_imageReference false reference
    have listed : Fits admits (.list portType) (.list ports) := .list (by simp [ports, portFits])
    exact fits_ofFields (by simp) (by simp_all) (by simp)
  exact ⟨by decide, fits, conformData_of_fits admits [⟨["image"], false⟩] ["name"] fits⟩

end TypedManifests
