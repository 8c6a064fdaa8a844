/-
Module: TypedManifests.Document
Purpose: What is read from a document: a value whose lists and mappings can be told apart, so that
  one that stands in several places is known to be the same.
Main exports: Mark, Document, Document.value, Document.ofValue, Document.get?
-/
import TypedManifests.Value.Basic

/-!
A document may name a list or a mapping and refer to it again further on. Both places then hold the
same one, and what is done to it in one of them is seen in the other. Every list and every mapping
has a mark for that; the value of a document is what is left without the marks.
-/

namespace TypedManifests

/-- What tells the lists and mappings of a document apart. -/
abbrev Mark := List Nat

/-- A value as it is read. Lists and mappings with one mark are one, in several places. -/
inductive Document where
  /-- A value without parts. -/
  | scalar (v : Value)
  | list (mark : Mark) (items : List Document)
  | map (mark : Mark) (entries : List (Value × Document))
deriving Inhabited, Repr

namespace Document

mutual

/-- The value, wherever its parts stand besides. -/
def value : Document → Value
  | .scalar v => v
  | .list _ items => .list (values items)
  | .map _ entries => .map (entryValues entries)

def values : List Document → List Value
  | [] => []
  | item :: rest => value item :: values rest

def entryValues : List (Value × Document) → Entries
  | [] => []
  | (key, inner) :: rest => (key, value inner) :: entryValues rest

end

mutual

/-- The value as a document in which everything stands once: a mark tells the place. -/
def ofValueAt (place : Mark) : Value → Document
  | .list items => .list place (ofItemsAt place 0 items)
  | .map entries => .map place (ofEntriesAt place 0 entries)
  | v => .scalar v

/-- The items from the one at `index` on. -/
def ofItemsAt (place : Mark) (index : Nat) : List Value → List Document
  | [] => []
  | v :: rest => ofValueAt (place ++ [index]) v :: ofItemsAt place (index + 1) rest

/-- The entries from the one at `index` on. -/
def ofEntriesAt (place : Mark) (index : Nat) : List (Value × Value) → List (Value × Document)
  | [] => []
  | (key, v) :: rest => (key, ofValueAt (place ++ [index]) v) :: ofEntriesAt place (index + 1) rest

end

/-- The value as a document in which everything stands once. -/
def ofValue (v : Value) : Document := ofValueAt [] v

/-- What stands under the first entry whose key is the text `key`. -/
def get? (entries : List (Value × Document)) (key : String) : Option Document :=
  (entries.find? fun entry => entry.1.isTextOf key).map Prod.snd

end Document

end TypedManifests
