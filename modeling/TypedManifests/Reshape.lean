/-
Module: TypedManifests.Reshape
Purpose: Data in the shape of a strengthened type.
Main exports: Reshaping, Reshaping.conform, Reshaping.conformData
-/
import TypedManifests.ImageConvention
import TypedManifests.SampleIndex

/-!
Bringing data into the shape of a strengthened type: where the type has a record and the data a
keyed list, the list becomes a mapping by name; where the type has the parts of an image reference
and the data its text, the text is taken apart. Anything else stays.
-/

namespace TypedManifests

/-- The data conventions that go with a type: conventions for text fields, and the fields that may
key a list. -/
structure Reshaping where
  conventions : List ImageConvention
  keyFields : List String

namespace Reshaping

/-- A text under `label` where the type has the record `type`: the first convention that makes this
record of such a field takes the text apart. -/
def text (r : Reshaping) (label : Option String) (type : TypeExpr) (s : String) : Value :=
  match label with
  | none => .text s
  | some l =>
    match r.conventions.find? fun c => c.applies l .text && c.replacement = type with
    | some c => c.reshape (.text s)
    | none => .text s

/-- The mapping from the name of each item of a keyed list to its other entries, with `f name`
applied to them. -/
def keyItems (field : String) (f : String → Value → Value) (items : List Value) : Entries :=
  items.filterMap fun item => do
    let name ← KeyedList.name? field item
    let entries ← item.entries?
    return (.text name, f name (.map (entries.without field)))

/-- Applies `f` under the text of its key to the value of each entry, but only to the last one of
those whose keys have the same text. -/
def mapEntries (f : String → Value → Value) : Entries → Entries
  | [] => []
  | (key, value) :: rest =>
    let shaped :=
      if rest.any fun entry => entry.1.keyText = key.keyText then value else f key.keyText value
    (key, shaped) :: mapEntries f rest

mutual

/-- The data that stands under `label`, in the shape of the type. -/
def conform (r : Reshaping) (label : Option String) : TypeExpr → Value → Value
  | _, .null => .null
  | .scalar _, v => v
  | .optional t, v => conform r label t v
  | .list t, .list items => .list (items.map fun item => conform r none t item)
  | .list _, v => v
  | .record fields, .map entries => .map (mapEntries (conformAt r fields) entries)
  | .record fields, .list items =>
    match KeyedList.of? r.keyFields items with
    | none => .list items
    | some keyed => .map (keyItems keyed.field (conformAt r fields) items)
  | .record fields, .text s => r.text label (.record fields) s
  | .record _, v => v

/-- The data that stands under `label`, in the shape of the field with that label, if there is one.
-/
def conformAt (r : Reshaping) : List (String × TypeExpr) → String → Value → Value
  | [], _, v => v
  | (l, t) :: rest, label, v =>
    if l = label then conform r (some label) t v else conformAt r rest label v

end

end Reshaping

/-- The data in the shape of the type. -/
def conformData (conventions : List ImageConvention) (keyFields : List String) (type : TypeExpr)
    (data : Value) : Value :=
  Reshaping.conform ⟨conventions, keyFields⟩ none type data

/-- Of two keys with one text only the later one stands for the field. -/
example :
    let ports : Value := .list [.ofFields [("name", .text "http"), ("port", .int 80)]]
    let named : Value := .ofFields [("http", .ofFields [("port", .int 80)])]
    conformData [] ["name"] (.record [("True", .record [])])
        (.map [(.bool true, ports), (.text "True", ports)]) =
      .map [(.bool true, ports), (.text "True", named)] := by
  cbv

end TypedManifests
