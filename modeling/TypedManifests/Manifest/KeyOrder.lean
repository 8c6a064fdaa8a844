/-
Module: TypedManifests.Manifest.KeyOrder
Purpose: The customary order of the keys of Kubernetes objects: a few head keys first, all others
  after them in the order they have.
Main exports: headKeys, headFirst, Value.ordered
-/
import TypedManifests.Value.Basic

namespace TypedManifests.KeyOrder

/-- The keys that come first, in this order. -/
def headKeys : List String := ["apiVersion", "kind", "metadata", "spec", "data", "status"]

def isHead (key : Value) : Bool := headKeys.any key.isTextOf

/-- The entries with the head keys first. -/
def headFirst (entries : Entries) : Entries :=
  headKeys.flatMap (fun key => entries.filter fun entry => entry.1.isTextOf key) ++
    entries.filter fun entry => !isHead entry.1

mutual

/-- The value with every mapping in customary order. -/
def ordered : Value → Value
  | .list items => .list (orderedItems items)
  | .map entries => .map (headFirst (orderedEntries entries))
  | v => v

def orderedItems : List Value → List Value
  | [] => []
  | v :: rest => ordered v :: orderedItems rest

def orderedEntries : List (Value × Value) → List (Value × Value)
  | [] => []
  | (key, v) :: rest => (key, ordered v) :: orderedEntries rest

end

end TypedManifests.KeyOrder

namespace TypedManifests.Value

/-- The value with the head keys of every mapping first. -/
def ordered (v : Value) : Value := KeyOrder.ordered v

end TypedManifests.Value
