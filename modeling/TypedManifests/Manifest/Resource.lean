/-
Module: TypedManifests.Manifest.Resource
Purpose: Kubernetes objects. A document of a manifest file becomes a resource if it names its kind,
  its API version and itself; the component it belongs to is told by a label, or else by its
  directory.
Main exports: Resource, ResourceFault, ResourceError, claimTemplates, completed, head, ofDocument
-/
import TypedManifests.Document
import TypedManifests.Log
import TypedManifests.Path.Basic
import TypedManifests.Value.Literal

namespace TypedManifests

/-- A Kubernetes object and where it comes from. -/
structure Resource where
  source : String
  component : String
  kind : String
  apiVersion : String
  name : String
  schemaType : String
  labels : Entries
  contents : Entries
deriving Repr, Inhabited

/-- What a document lacks to be a resource, or a file to be read. -/
inductive ResourceFault where
  | notAMapping
  | missingKind
  | missingApiVersion
  | missingMetadata
  | missingName
  | missingSpec
  | missingClaimTemplates
  | claimTemplateNotAMapping
  | undecodable (explanation : String)
  | noSuchInput
deriving DecidableEq, Repr

namespace ResourceFault

def describe : ResourceFault → String
  | .notAMapping => "document is not a mapping"
  | .missingKind => "resource is missing a kind field"
  | .missingApiVersion => "resource is missing a apiVersion field"
  | .missingMetadata => "resource is missing metadata"
  | .missingName => "resource is missing name field"
  | .missingSpec => "resource is missing spec section"
  | .missingClaimTemplates => "resource is missing volumeClaimTemplates section"
  | .claimTemplateNotAMapping => "resource is missing volumeClaimTemplate section"
  | .undecodable explanation => "failed to decode yaml file: " ++ explanation
  | .noSuchInput => "input path does not exist"

end ResourceFault

/-- A fault and the file it is found in. -/
structure ResourceError where
  fault : ResourceFault
  source : String
deriving DecidableEq, Repr

def ResourceError.message (e : ResourceError) : String :=
  if e.source = "" then e.fault.describe else e.source ++ ": " ++ e.fault.describe

namespace Resource

/-- The label that names the component. -/
def componentLabel : String := "app.kubernetes.io/component"

/-- The kind whose claim templates are completed. -/
def statefulSetKind : String := "StatefulSet"

/-- The component of a file without a label for it: its directory below the root, or the root's own
name. -/
def componentOfPath (root file : String) : String :=
  let below := Path.directory (Path.relative file root)
  if below = "" ∨ below = "." then Path.baseName root else below

/-- A claim template needs an API version and a kind of its own. -/
def completeTemplate (template : Entries) : Entries :=
  (template.set "apiVersion" (.text "apps/v1")).set "kind" (.text "PersistentVolumeClaim")

mutual

/-- The value of what is read after the mappings with these marks were completed. Each is completed
wherever it stands. -/
def completedValue (templates : List Mark) : Document → Value
  | .scalar v => v
  | .list _ items => .list (completedItems templates items)
  | .map mark entries =>
    let entries := completedEntries templates entries
    .map (if mark ∈ templates then completeTemplate entries else entries)

def completedItems (templates : List Mark) : List Document → List Value
  | [] => []
  | item :: rest => completedValue templates item :: completedItems templates rest

def completedEntries (templates : List Mark) : List (Value × Document) → Entries
  | [] => []
  | (key, inner) :: rest => (key, completedValue templates inner) :: completedEntries templates rest

end

/-- The claim templates of a stateful set. -/
def claimTemplates (contents : List (Value × Document)) : Except ResourceFault (List Mark) := do
  let some (.map _ spec) := Document.get? contents "spec" | .error .missingSpec
  let some (.list _ templates) := Document.get? spec "volumeClaimTemplates"
    | .error .missingClaimTemplates
  templates.mapM fun template =>
    match template with
    | .map mark _ => .ok mark
    | _ => .error .claimTemplateNotAMapping

/-- The contents of a resource of a kind. -/
def completed (kind : String) (contents : List (Value × Document)) :
    Except ResourceFault Entries :=
  if kind = statefulSetKind then
    (claimTemplates contents).map fun templates => completedEntries templates contents
  else .ok (Document.entryValues contents)

/-- What names a resource: its kind, API version and name, and its labels. -/
structure Head where
  kind : String
  apiVersion : String
  name : String
  labels : Entries

/-- The labels in the metadata of a resource, none if they are no mapping. -/
def labelsOf (contents : Entries) : Entries :=
  match contents.get? "metadata" with
  | some (.map metadata) =>
    match Entries.get? metadata "labels" with
    | some (.map labels) => labels
    | _ => []
  | _ => []

def head (contents : Entries) : Except ResourceFault Head := do
  let some (.text kind) := contents.get? "kind" | .error .missingKind
  let some (.text apiVersion) := contents.get? "apiVersion" | .error .missingApiVersion
  let some (.map metadata) := contents.get? "metadata" | .error .missingMetadata
  let some (.text name) := Entries.get? metadata "name" | .error .missingName
  return { kind, apiVersion, name, labels := labelsOf contents }

/-- The component that the labels name. -/
def labelledComponent? (labels : Entries) : Option String :=
  (labels.get? componentLabel).bind Value.text?

/-- What is logged when the component is told by the directory. -/
def derivedComponentLine (file : String) : LogLine :=
  ⟨.warning, "kubedhall.loader", "deriving component from directory for manifest " ++ file⟩

/-- The reference to the type of a kind in the schema package. -/
def schemaReference (schemaUrl : Value) (kind : String) : String :=
  "(" ++ schemaUrl.display ++ ")." ++ kind ++ ".Type"

/-- The resource that a document of `file` describes, and what is logged on the way. The labels are
taken from the completed contents, as they may be one of the claim templates too. -/
def ofDocument (root file : String) (schemaUrl : Value) (document : Document) :
    List LogLine × Except ResourceError Resource :=
  match document with
  | .map _ contents =>
    match head (Document.entryValues contents) with
    | .error fault => ([], .error ⟨fault, file⟩)
    | .ok h =>
      let labelled := labelledComponent? h.labels
      let log := if labelled.isSome then [] else [derivedComponentLine file]
      match completed h.kind contents with
      | .error fault => (log, .error ⟨fault, file⟩)
      | .ok contents =>
        (log, .ok {
          source := file
          component := labelled.getD (componentOfPath root file)
          kind := h.kind
          apiVersion := h.apiVersion
          name := h.name
          schemaType := schemaReference schemaUrl h.kind
          labels := labelsOf contents
          contents })
  | _ => ([], .error ⟨.notAMapping, file⟩)

end Resource

end TypedManifests
