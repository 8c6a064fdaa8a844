/-
Module: TypedManifests.Manifest.ResourceSet
Purpose: The resources of a run, grouped by component, and what is made of them: the merged record,
  which holds each resource under component, kind and name, and the schema type that covers it.
Main exports: ResourceSet, ResourceSet.add, ResourceSet.record, ResourceSet.schemaType
-/
import TypedManifests.Manifest.Resource
import TypedManifests.Text.Words
import TypedManifests.TypeExpr.Printer

namespace TypedManifests

/-- Resources grouped by component, in the order in which the components were met. -/
structure ResourceSet where
  root : String
  components : List (String × List Resource)
deriving Repr, Inhabited

namespace ResourceSet

def empty (root : String) : ResourceSet := ⟨root, []⟩

/-- Adds a resource to the end of a component's group, which is made if need be. -/
def addTo (resource : Resource) : List (String × List Resource) → List (String × List Resource)
  | [] => [(resource.component, [resource])]
  | (component, group) :: rest =>
    if component = resource.component then (component, group ++ [resource]) :: rest
    else (component, group) :: addTo resource rest

def add (set : ResourceSet) (resource : Resource) : ResourceSet :=
  { set with components := addTo resource set.components }

/-- All resources, group by group. -/
def resources (set : ResourceSet) : List Resource := set.components.flatMap Prod.snd

/-- The groups in the order of their components. -/
def sortedComponents (set : ResourceSet) : List (String × List Resource) :=
  set.components.mergeSort fun a b => a.1 ≤ b.1

/-- Gives the value under `key` of a mapping to `f`, an empty mapping if there is none, and puts
back the mapping that `f` makes of it. -/
def updateMap (key : String) (f : Entries → Entries) (entries : Entries) : Entries :=
  match entries.get? key with
  | some (.map inner) => entries.set key (.map (f inner))
  | _ => entries.set key (.map (f []))

/-- Puts a resource into the record under component, kind and name. -/
def insertResource (title : String) (record : Entries) (r : Resource) : Entries :=
  updateMap title (updateMap r.kind (Entries.set r.name (.map r.contents))) record

/-- Puts a group into the record. -/
def insertGroup (record : Entries) (component : String) (group : List Resource) : Entries :=
  let title := Text.titleCase component
  group.foldl (insertResource title) (updateMap title id record)

/-- The merged record: component in title case, kind, name, contents. -/
def record (set : ResourceSet) : Entries :=
  set.sortedComponents.foldl
    (fun record (component, group) => insertGroup record component group) []

/-- The resources of a group by kind, and by name within a kind. -/
def sortedGroup (group : List Resource) : List Resource :=
  group.mergeSort fun a b => a.kind < b.kind || (a.kind = b.kind && a.name ≤ b.name)

/-- The record type of one resource. -/
def schemaOf (component : String) (r : Resource) : String :=
  let label := TypeExpr.printLabel
  "\x7b " ++ label (Text.titleCase component) ++ " : \x7b " ++ label r.kind ++ " : \x7b " ++
    label r.name ++ " : " ++ r.schemaType ++ " \x7d \x7d \x7d"

/-- The type of the record: the types of its resources, combined. -/
def schemaType (set : ResourceSet) : String :=
  String.intercalate " ⩓ " (set.sortedComponents.flatMap fun (component, group) =>
    (sortedGroup group).map (schemaOf component))

end ResourceSet

end TypedManifests
