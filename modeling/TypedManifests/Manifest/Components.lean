/-
Module: TypedManifests.Manifest.Components
Purpose: The components summary: the names of the containers of every workload in a merged record.
Main exports: workloadKinds, containerNames?, summarizeObject, summarize
-/
import TypedManifests.Value.Literal

namespace TypedManifests.Components

/-- The kinds that run containers. -/
def workloadKinds : List String := ["Deployment", "StatefulSet", "DaemonSet"]

/-- The name of an item of a list of containers. -/
def itemName? (item : Value) : Option String := do
  (← Entries.get? (← item.entries?) "name").text?

/-- The names of containers that are given as a list of named items or as a mapping by name. -/
def namesOf? : Value → Option (List String)
  | .map entries => some (entries.map fun entry => entry.1.keyText)
  | .list items => some (items.filterMap itemName?)
  | _ => none

mutual

/-- The container names at the first `containers` entry of a workload, searched in depth along the
mappings. -/
def containerNames? : Value → Option (List String)
  | .map entries => containerNamesIn? entries
  | _ => none

def containerNamesIn? : List (Value × Value) → Option (List String)
  | [] => none
  | (key, value) :: rest =>
    match (if key.isTextOf "containers" then namesOf? value else none) with
    | some names => some names
    | none =>
      match containerNames? value with
      | some names => some names
      | none => containerNamesIn? rest

end

/-- A mapping with an empty mapping under each name; a name that comes again is not repeated. -/
def emptyMaps (names : List String) : Value :=
  .map (names.foldl (fun (entries : Entries) name => entries.set name (.map [])) [])

/-- What the summary says of one object of a kind. -/
def summarizeObject (kind contents : Value) : Value :=
  if workloadKinds.any kind.isTextOf then
    match containerNames? contents with
    | some names => .ofFields [("containers", emptyMaps names)]
    | none => .map []
  else .map []

/-- The objects of each kind. -/
def mapValues (f : Value → Value → Value) : Value → Value
  | .map entries => .map (entries.map fun (key, value) => (key, f key value))
  | _ => .map []

/-- The summary of a merged record: component, kind, name, containers. -/
def summarize (record : Value) : Value :=
  mapValues (fun _ kinds => mapValues (fun kind objects =>
    mapValues (fun _ contents => summarizeObject kind contents) objects) kinds) record

end TypedManifests.Components
