/-
Module: TypedManifests.Proofs.TextFaults
Purpose: No text breaks the strengthening of types. Every step that could fail is allowed to: a
  token is looked up by its index, a record is checked for repeated labels, and an item of a keyed
  list is asked for its key field, when a sample is indexed and again when data is reshaped. Of all
  these failures only the faults of the text occur, and for these the text is used as it is.
Main exports: ofValueChecked_eq_ok, conformChecked_eq_ok, strengthenChecked_eq, DerivedFrom,
  deriveChecked, only_text_faults
-/
import TypedManifests.Proofs.RoundTrip
import TypedManifests.Proofs.RunSteps
import TypedManifests.Proofs.Reshaping
import TypedManifests.Proofs.SecondRun
import TypedManifests.Proofs.TokenIndex

namespace TypedManifests

open TypedManifests.TypeExpr

/-!
### The items of keyed lists
-/

namespace KeyedList

/-- The text of an item under the key field, which the item must have. -/
def itemName (field : String) : Value → Except StepError String
  | .map entries =>
    match (Entries.get? entries field).bind Value.text? with
    | some name => .ok name
    | none => .error (.noEntry field)
  | _ => .error (.noEntry field)

theorem itemName_of_name? {field name : String} {item : Value}
    (named : name? field item = some name) : itemName field item = .ok name := by
  obtain ⟨entries, rfl, got, _⟩ := name?_eq_some.1 named
  simp [itemName, got, Value.text?]

/-- All items carry a name under the field. -/
def AllNamed (field : String) (items : List Value) : Prop :=
  ∀ item ∈ items, ∃ name, name? field item = some name

/-- Every item of a keyed list has the field by which the list is keyed. -/
theorem allNamed_of_of? {keyFields : List String} {items : List Value} {keyed : KeyedList}
    (isKeyed : of? keyFields items = some keyed) : AllNamed keyed.field items := by
  obtain ⟨_, _, _, named⟩ := of?_eq_some isKeyed
  intro item member
  have listed : name? keyed.field item ∈ keyed.names.map some := by
    rw [← named]
    exact List.mem_map_of_mem member
  obtain ⟨name, _, same⟩ := List.mem_map.1 listed
  exact ⟨name, same.symm⟩

/-- Asked for their key fields, the items tell the names of the list. -/
theorem mapM_itemName {keyFields : List String} {items : List Value} {keyed : KeyedList}
    (isKeyed : of? keyFields items = some keyed) :
    items.mapM (itemName keyed.field) = .ok keyed.names := by
  obtain ⟨_, _, _, named⟩ := of?_eq_some isKeyed
  have each : ∀ item ∈ items,
      itemName keyed.field item = .ok ((name? keyed.field item).getD "") := by
    intro item member
    obtain ⟨name, isName⟩ := allNamed_of_of? isKeyed item member
    rw [itemName_of_name? isName, isName, Option.getD_some]
  have names := congrArg (List.map fun name : Option String => name.getD "") named
  rw [List.map_map, List.map_map] at names
  rw [mapM_eq_ok each]
  refine congrArg Except.ok (names.trans ?_)
  exact List.map_id keyed.names

end KeyedList

namespace SampleIndex

mutual

/-- `addValue`, where the items of a keyed list are asked for their key fields. -/
def addValueChecked (keyFields : List String) (path : LabelPath) :
    Value → SampleIndex → Except StepError SampleIndex
  | .map entries, index => addEntriesChecked keyFields none path entries index
  | .list items, index =>
    match KeyedList.of? keyFields items with
    | none => .ok (index.addUnknown path)
    | some keyed => do
      let names ← items.mapM (KeyedList.itemName keyed.field)
      addItemsChecked keyFields keyed.field path items (index.addKeyed path ⟨keyed.field, names⟩)
  | _, index => .ok index

def addEntriesChecked (keyFields : List String) (skipped : Option String) (path : LabelPath) :
    List (Value × Value) → SampleIndex → Except StepError SampleIndex
  | [], index => .ok index
  | (key, value) :: rest, index =>
    if skipped.any key.isTextOf then addEntriesChecked keyFields skipped path rest index
    else do
      let index ← addValueChecked keyFields (path ++ [key.keyText]) value index
      addEntriesChecked keyFields skipped path rest index

def addItemsChecked (keyFields : List String) (field : String) (path : LabelPath) :
    List Value → SampleIndex → Except StepError SampleIndex
  | [], index => .ok index
  | .map entries :: rest, index => do
    let name ← KeyedList.itemName field (.map entries)
    let index ← addEntriesChecked keyFields (some field) (path ++ [name]) entries index
    addItemsChecked keyFields field path rest index
  | _ :: _, _ => .error (.noEntry field)

end

def ofValueChecked (keyFields : List String) (sample : Value) : Except StepError SampleIndex :=
  addValueChecked keyFields [] sample empty

mutual

theorem addValueChecked_eq_ok (keyFields : List String) : ∀ (value : Value) (path : LabelPath)
    (index : SampleIndex),
    addValueChecked keyFields path value index = .ok (addValue keyFields path value index)
  | .map entries, path, index => by
      rw [addValueChecked, addValue, addEntriesChecked_eq_ok keyFields entries]
  | .list items, path, index => by
      rw [addValueChecked, addValue]
      cases isKeyed : KeyedList.of? keyFields items with
      | none => rfl
      | some keyed =>
          simp only [KeyedList.mapM_itemName isKeyed]
          exact addItemsChecked_eq_ok keyFields keyed.field items path _
            (KeyedList.allNamed_of_of? isKeyed)
  | .null, _, _ | .bool _, _, _ | .int _, _, _ | .float _, _, _ | .text _, _, _ | .date _, _, _
  | .time _, _, _ => by
      simp [addValueChecked, addValue]

theorem addEntriesChecked_eq_ok (keyFields : List String) : ∀ (entries : List (Value × Value))
    (skipped : Option String) (path : LabelPath) (index : SampleIndex),
    addEntriesChecked keyFields skipped path entries index =
      .ok (addEntries keyFields skipped path entries index)
  | [], _, _, _ => by
      rw [addEntriesChecked, addEntries]
  | (key, value) :: rest, skipped, path, index => by
      rw [addEntriesChecked, addEntries]
      split
      · exact addEntriesChecked_eq_ok keyFields rest skipped path index
      · rw [addValueChecked_eq_ok keyFields value]
        exact addEntriesChecked_eq_ok keyFields rest skipped path _

theorem addItemsChecked_eq_ok (keyFields : List String) (field : String) : ∀ (items : List Value)
    (path : LabelPath) (index : SampleIndex), KeyedList.AllNamed field items →
      addItemsChecked keyFields field path items index =
        .ok (addItems keyFields field path items index)
  | [], _, _, _ => by
      rw [addItemsChecked, addItems]
  | .map entries :: rest, path, index, named => by
      obtain ⟨name, isName⟩ := named _ List.mem_cons_self
      rw [addItemsChecked, addItems, KeyedList.itemName_of_name? isName, isName]
      change (addEntriesChecked keyFields (some field) (path ++ [name]) entries index >>= _) = _
      rw [addEntriesChecked_eq_ok keyFields entries]
      exact addItemsChecked_eq_ok keyFields field rest path _ fun item member =>
        named item (List.mem_cons_of_mem _ member)
  | .null :: _, _, _, named | .bool _ :: _, _, _, named | .int _ :: _, _, _, named
  | .float _ :: _, _, _, named | .text _ :: _, _, _, named | .date _ :: _, _, _, named
  | .time _ :: _, _, _, named | .list _ :: _, _, _, named => by
      obtain ⟨name, isName⟩ := named _ List.mem_cons_self
      obtain ⟨entries, isMap, _⟩ := KeyedList.name?_eq_some.1 isName
      cases isMap

end

/-- No item of a sample lacks the field by which its list is keyed. -/
theorem ofValueChecked_eq_ok (keyFields : List String) (sample : Value) :
    ofValueChecked keyFields sample = .ok (ofValue keyFields sample) :=
  addValueChecked_eq_ok keyFields sample [] empty

end SampleIndex

namespace Reshaping

/-- `keyItems`, where each item is asked for the key field. -/
def keyItemsChecked (field : String) (f : String → Value → Except StepError Value)
    (items : List Value) : Except StepError Entries :=
  items.mapM fun
    | .map entries => do
      let name ← KeyedList.itemName field (.map entries)
      return (.text name, ← f name (.map (Entries.without entries field)))
    | _ => .error (.noEntry field)

def mapEntriesChecked (f : String → Value → Except StepError Value) :
    Entries → Except StepError Entries
  | [] => .ok []
  | (key, value) :: rest => do
    let shaped ←
      if rest.any fun entry => entry.1.keyText = key.keyText then .ok value
      else f key.keyText value
    return (key, shaped) :: (← mapEntriesChecked f rest)

mutual

/-- `conform`, where the items of a keyed list are asked for their key fields. -/
def conformChecked (r : Reshaping) (label : Option String) :
    TypeExpr → Value → Except StepError Value
  | _, .null => .ok .null
  | .scalar _, v => .ok v
  | .optional t, v => conformChecked r label t v
  | .list t, .list items => do return .list (← items.mapM fun item => conformChecked r none t item)
  | .list _, v => .ok v
  | .record fields, .map entries => do
    return .map (← mapEntriesChecked (conformAtChecked r fields) entries)
  | .record fields, .list items =>
    match KeyedList.of? r.keyFields items with
    | none => .ok (.list items)
    | some keyed => do
      return .map (← keyItemsChecked keyed.field (conformAtChecked r fields) items)
  | .record fields, .text s => .ok (r.text label (.record fields) s)
  | .record _, v => .ok v

def conformAtChecked (r : Reshaping) :
    List (String × TypeExpr) → String → Value → Except StepError Value
  | [], _, v => .ok v
  | (l, t) :: rest, label, v =>
    if l = label then conformChecked r (some label) t v else conformAtChecked r rest label v

end

section

variable {f : String → Value → Except StepError Value} {g : String → Value → Value}

theorem keyItemsChecked_eq_ok (shapes : ∀ name value, f name value = .ok (g name value))
    {field : String} : ∀ {items : List Value}, KeyedList.AllNamed field items →
      keyItemsChecked field f items = .ok (keyItems field g items)
  | [], _ => rfl
  | item :: rest, named => by
      obtain ⟨name, isName⟩ := named item List.mem_cons_self
      obtain ⟨entries, rfl, _, _⟩ := KeyedList.name?_eq_some.1 isName
      have others := keyItemsChecked_eq_ok shapes fun other member =>
        named other (List.mem_cons_of_mem _ member)
      rw [keyItemsChecked] at others ⊢
      rw [List.mapM_cons, others]
      simp [KeyedList.itemName_of_name? isName, shapes, keyItems, isName, Value.entries?, bind,
        Except.bind, pure, Except.pure]

theorem mapEntriesChecked_eq_ok (shapes : ∀ name value, f name value = .ok (g name value)) :
    ∀ entries : Entries, mapEntriesChecked f entries = .ok (mapEntries g entries)
  | [] => rfl
  | (key, value) :: rest => by
      rw [mapEntriesChecked, mapEntries, mapEntriesChecked_eq_ok shapes rest]
      split
      · rfl
      · rw [shapes]
        rfl

end

mutual

theorem conformChecked_eq_ok (r : Reshaping) : ∀ (t : TypeExpr) (label : Option String)
    (value : Value), conformChecked r label t value = .ok (conform r label t value)
  | .scalar name, label, value => by
      cases value <;> simp [conformChecked]
  | .optional t, label, value => by
      rw [conform_optional, ← conformChecked_eq_ok r t label value]
      cases value <;> simp [conformChecked]
  | .list t, label, value => by
      have items := fun item => conformChecked_eq_ok r t none item
      cases value with
      | list values =>
          rw [conformChecked, conform_list, mapM_eq_ok fun item _ => items item]
          rfl
      | _ => simp [conformChecked, conform]
  | .record fields, label, value => by
      have parts := conformAtChecked_eq_ok r fields
      cases value with
      | map entries =>
          rw [conformChecked, conform, mapEntriesChecked_eq_ok parts]
          rfl
      | list items =>
          rw [conformChecked, conform]
          cases isKeyed : KeyedList.of? r.keyFields items with
          | none => rfl
          | some keyed =>
              simp only [keyItemsChecked_eq_ok parts (KeyedList.allNamed_of_of? isKeyed)]
              rfl
      | _ => simp [conformChecked, conform]

theorem conformAtChecked_eq_ok (r : Reshaping) : ∀ (fields : Fields) (name : String)
    (value : Value), conformAtChecked r fields name value = .ok (conformAt r fields name value)
  | [], _, _ => by
      rw [conformAtChecked, conformAt]
  | (label, t) :: rest, name, value => by
      rw [conformAtChecked, conformAt]
      split
      · exact conformChecked_eq_ok r t (some name) value
      · exact conformAtChecked_eq_ok r rest name value

end

end Reshaping

/-!
### Strengthening
-/

/-- A run of passes fails where its text is no record type, and only there. -/
theorem Strengthening.ofText_eq_error {passes : List Pass} {layout : Layout} {source : String}
    {e : ReadError} : ofText passes layout source = .error e ↔ parseRecord source = .error e := by
  rw [ofText]
  cases parseRecord source with
  | error e' => simp [bind, Except.bind]
  | ok given => simp [bind, Except.bind, pure, Except.pure]

namespace Settings

variable (s : Settings)

/-- The index of a sample, if there is one. -/
def indexChecked : Option Value → Except StepError (Option SampleIndex)
  | none => .ok none
  | some value => (SampleIndex.ofValueChecked s.keyFields value).map some

theorem indexChecked_eq_ok (sample : Option Value) :
    s.indexChecked sample = .ok (sample.map (SampleIndex.ofValue s.keyFields)) := by
  cases sample with
  | none => rfl
  | some value =>
      rw [indexChecked, SampleIndex.ofValueChecked_eq_ok]
      rfl

/-- `strengthenType`, where every step may fail that could. -/
def strengthenChecked (layout : Layout) (source : String) (sample : Option Value) :
    Except StepError Strengthening := do
  let index ← s.indexChecked sample
  let given ← parseRecordByIndex source
  let (result, applied) ← (Pass.applyAllChecked (s.passes index) given).mapError .repeatedLabel
  return { given, result, text := result.print layout 0, applied }

/-- Strengthening fails with nothing but the faults of the text. -/
theorem strengthenChecked_eq (layout : Layout) (source : String) (sample : Option Value) :
    s.strengthenChecked layout source sample =
      (s.strengthenType layout source sample).mapError .read := by
  unfold strengthenChecked
  rw [indexChecked_eq_ok, parseRecordByIndex_eq, strengthenType, Strengthening.ofText]
  cases denotes : parseRecord source with
  | error e => rfl
  | ok given =>
      have unique := (denotable_of_parseRecord denotes).unique
      change (Except.mapError _ (Pass.applyAllChecked (s.passesFor sample) given) >>= _) = _
      rw [Pass.applyAllChecked_eq_ok _ unique]
      rfl

/-- `conform`, where the items of a keyed list are asked for their key fields. -/
def conformChecked (type : TypeExpr) (data : Value) : Except StepError Value :=
  Reshaping.conformChecked ⟨s.conventions, s.keyFields⟩ none type data

theorem conformChecked_eq_ok (type : TypeExpr) (data : Value) :
    s.conformChecked type data = .ok (s.conform type data) :=
  Reshaping.conformChecked_eq_ok _ type none data

end Settings

/-!
### Deriving a type

What the run does with an inferred text is one choice: the text is used as it is, or its type is
strengthened and the record follows.
-/

namespace Conversion

open Run

/-- What a text and a record come to: the text is no record type, and both are used as they are; or
it is one, and the type strengthened by the record is used with the record in the shape of it. -/
inductive DerivedFrom (s : Settings) (inferred : String) (record : Value) : Derived → Prop where
  | plain {e : ReadError} (refused : parseRecord inferred = .error e) :
      DerivedFrom s inferred record ⟨inferred, record, false, []⟩
  | strengthened {st : Strengthening}
      (ran : s.strengthenType .block inferred (some record) = .ok st)
      (denotes : parseRecord st.text = .ok st.result) :
      DerivedFrom s inferred record
        ⟨st.text, s.conform st.result record, st.changed, st.applied⟩

/-- Derives a type from an inferred text. Faults of the text are caught and nothing else is. -/
def deriveChecked (s : Settings) (inferred : String) (record : Value) : Except StepError Derived :=
  match s.strengthenChecked .block inferred (some record) with
  | .error (.read _) => .ok (.plain inferred record)
  | .error e => .error e
  | .ok st => do
    let data ← s.conformChecked st.result record
    return ⟨st.text, data, st.changed, st.applied⟩

theorem exists_deriveChecked (s : Settings) (inferred : String) (record : Value) :
    ∃ d, deriveChecked s inferred record = .ok d ∧ DerivedFrom s inferred record d := by
  rw [deriveChecked, s.strengthenChecked_eq]
  cases ran : s.strengthenType .block inferred (some record) with
  | error e =>
      have refused : parseRecord inferred = .error e := Strengthening.ofText_eq_error.1 ran
      exact ⟨_, rfl, .plain refused⟩
  | ok st =>
      obtain ⟨given, denotes, made⟩ := Strengthening.ofText_eq_ok.1 ran
      have result := (denotable_of_parseRecord denotes).applyAll
        (s.ofSample_passesFor (some record))
      have text : parseRecord st.text = .ok st.result := by
        rw [made]
        exact result.parseRecord_print .block 0
      refine ⟨_, ?_, .strengthened ran text⟩
      change (s.conformChecked st.result record >>= _) = _
      rw [s.conformChecked_eq_ok]
      rfl

/-- Where the type is inferred and strengthened, the run fails if the call does, and otherwise comes
to what is derived from the text that the command wrote. -/
theorem start_derive {s : Settings} {resources : ResourceSet} {w : World} {d : Derived}
    (infers : s.typeSource = .infer) (on : s.strengthen.truthy = true)
    (derived : deriveChecked s (Text.trim w.reply.stdout) (.map resources.record) = .ok d) :
    ((derive s resources).start w).1 =
      match w.callFailure? (.float s.timeout) inferCommand with
      | some e => .error e
      | none => .ok d := by
  have reply (line : LogLine) : ({ w with log := w.log ++ [line] } : World).reply = w.reply := rfl
  have failure (line : LogLine) :
      ({ w with log := w.log ++ [line] } : World).callFailure? (.float s.timeout) inferCommand =
        w.callFailure? (.float s.timeout) inferCommand := rfl
  unfold derive
  simp only [infers, info, start_bind, start_note, start_inferType, reply, failure]
  cases w.callFailure? (.float s.timeout) inferCommand with
  | some e => rfl
  | none =>
      simp only [on, Bool.not_true, Bool.false_eq_true, if_false]
      rw [deriveChecked, s.strengthenChecked_eq] at derived
      cases ran : s.strengthenType .block (Text.trim w.reply.stdout)
          (some (.map resources.record)) with
      | error e =>
          rw [ran] at derived
          cases derived
          rfl
      | ok st =>
          rw [ran] at derived
          change (s.conformChecked st.result _ >>= _) = _ at derived
          rw [s.conformChecked_eq_ok] at derived
          cases derived
          rfl

end Conversion

/-!
### Every text
-/

/-- What reading a text comes to: a well-formed type or a fault of the text, also where tokens are
looked up by their index and records are checked. -/
structure ReadsSafely (source : String) : Prop where
  anyType : parseByIndex source = (parse source).mapError .read
  recordType : parseRecordByIndex source = (parseRecord source).mapError .read
  wellFormed : ∀ t, parse source = .ok t → t.UniqueLabels
  isRecord : ∀ t, parseRecord source = .ok t → t.UniqueLabels ∧ ∃ fields, t = .record fields

theorem readsSafely (source : String) : ReadsSafely source where
  anyType := parseByIndex_eq source
  recordType := parseRecordByIndex_eq source
  wellFormed _ denotes := (uniqueLabels_and_printable_of_parse denotes).1
  isRecord _ denotes :=
    ⟨(denotable_of_parseRecord denotes).unique, (denotable_of_parseRecord denotes).isRecord⟩

end TypedManifests
