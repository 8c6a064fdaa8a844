/-
Module: TypedManifests.SampleIndex
Purpose: An index of the lists in a sample of data, which says where a list is keyed and by which
  names.
Main exports: LabelPath, KeyedList, KeyedList.of?, SampleIndex, SampleIndex.lookup,
  SampleIndex.ofValue
-/
import TypedManifests.Value.Literal

/-!
An index of the lists in a sample of data. A list is keyed when every item is a mapping that carries
a name of its own under the same key field; the index says by which field, and which names there
are. Lists are found by the path of labels that leads to them; behind a keyed list, the path goes on
with the name of an item.
-/

namespace TypedManifests

/-- The labels on the way from the root of the data. -/
abbrev LabelPath := List String

/-- The key field of a list and the names of its items, in their order. -/
structure KeyedList where
  field : String
  names : List String
deriving DecidableEq, Repr

namespace KeyedList

/-- A character that a label in backticks may hold: printable ASCII other than the backtick. -/
def isNameChar (c : Char) : Bool :=
  ' ' ≤ c && c ≤ '~' && c ≠ '\x60'

/-- A name must survive as a label, in backticks if need be. -/
def isName (text : String) : Bool :=
  !text.toList.isEmpty && text.toList.all isNameChar

/-- The value is a text that may serve as a name. -/
def usable (v : Value) : Bool := v.text?.any isName

/-- The name that an item carries under `field`. -/
def name? (field : String) (item : Value) : Option String := do
  let entries ← item.entries?
  let name ← (← entries.get? field).text?
  if isName name then some name else none

/-- The names of all items under `field`, if each has one and no two are equal. -/
def names? (field : String) (items : List Value) : Option (List String) :=
  (items.mapM (name? field)).filter fun names => decide names.Nodup

/-- How a list is keyed: by the first of the key fields that serves. An empty list is not keyed. -/
def of? (keyFields : List String) (items : List Value) : Option KeyedList :=
  if items.isEmpty then none
  else keyFields.findSome? fun field => (names? field items).map fun names => ⟨field, names⟩

end KeyedList

/-- The keyed lists, each at its path, and the paths of the other lists. -/
structure SampleIndex where
  keyed : List (LabelPath × KeyedList)
  unknown : List LabelPath
deriving DecidableEq, Repr, Inhabited

namespace SampleIndex

def empty : SampleIndex := ⟨[], []⟩

/-- Records a keyed list; a path that is recorded again keeps its place. -/
def insert (path : LabelPath) (list : KeyedList) :
    List (LabelPath × KeyedList) → List (LabelPath × KeyedList)
  | [] => [(path, list)]
  | entry :: rest =>
    if entry.1 = path then (path, list) :: rest else entry :: insert path list rest

def addKeyed (path : LabelPath) (list : KeyedList) (index : SampleIndex) : SampleIndex :=
  { index with keyed := insert path list index.keyed }

def addUnknown (path : LabelPath) (index : SampleIndex) : SampleIndex :=
  if path ∈ index.unknown then index else { index with unknown := index.unknown ++ [path] }

/-- The keyed list at a path. -/
def lookup (index : SampleIndex) (path : LabelPath) : Option KeyedList :=
  (index.keyed.find? fun entry => entry.1 = path).map Prod.snd

/-- The paths of the lists that are not keyed, in lexicographic order. -/
def sortedUnknown (index : SampleIndex) : List LabelPath :=
  index.unknown.mergeSort fun a b => !List.lex b a fun x y => x < y

mutual

/-- Adds the lists inside a value at `path`. -/
def addValue (keyFields : List String) (path : LabelPath) : Value → SampleIndex → SampleIndex
  | .map entries, index => addEntries keyFields none path entries index
  | .list items, index =>
    match KeyedList.of? keyFields items with
    | none => index.addUnknown path
    | some keyed => addItems keyFields keyed.field path items (index.addKeyed path keyed)
  | _, index => index

/-- Adds the lists inside the entries of a mapping at `path`, except the one under the text
`skipped`. -/
def addEntries (keyFields : List String) (skipped : Option String) (path : LabelPath) :
    List (Value × Value) → SampleIndex → SampleIndex
  | [], index => index
  | (key, value) :: rest, index =>
    if skipped.any key.isTextOf then addEntries keyFields skipped path rest index
    else
      addEntries keyFields skipped path rest
        (addValue keyFields (path ++ [key.keyText]) value index)

/-- Adds the lists inside the items of a list at `path` that is keyed by `field`. -/
def addItems (keyFields : List String) (field : String) (path : LabelPath) :
    List Value → SampleIndex → SampleIndex
  | [], index => index
  | .map entries :: rest, index =>
    let name := ((KeyedList.name? field (.map entries)).getD "")
    addItems keyFields field path rest
      (addEntries keyFields (some field) (path ++ [name]) entries index)
  | _ :: rest, index => addItems keyFields field path rest index

end

/-- The index of a sample. -/
def ofValue (keyFields : List String) (sample : Value) : SampleIndex :=
  addValue keyFields [] sample empty

end SampleIndex

end TypedManifests
