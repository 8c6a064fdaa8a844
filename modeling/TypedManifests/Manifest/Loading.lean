/-
Module: TypedManifests.Manifest.Loading
Purpose: Loading the resources of a run. Each input is a file or a directory; the files are read in
  their order, and the documents of a file in theirs. The first fault ends the loading.
Main exports: LoadError, Loading, Loading.addFile, Loading.addInput, ResourceSet.commonRoot,
  ResourceSet.load
-/
import TypedManifests.Files.Walk
import TypedManifests.Files.Workspace
import TypedManifests.Manifest.ResourceSet
import TypedManifests.Path.Glob
import TypedManifests.Text.Lines
import TypedManifests.Yaml.Documents

namespace TypedManifests

/-- Why loading failed. -/
inductive LoadError where
  | resource (error : ResourceError)
  | pattern (error : Path.Glob.PatternError)
  | badValue (fault : Yaml.ValueFault)
deriving DecidableEq, Repr

/-- What stands in a message for the explanation of a YAML text that is not well formed. -/
def yamlExplanation : String := "<yaml>"

/-- What is loaded, the version of YAML that the last text left off with, and the log. -/
structure Loading where
  resources : ResourceSet
  version : Yaml.Version
  log : List LogLine

namespace Loading

/-- Adds what one document describes. -/
def addDocument (file : String) (schemaUrl : Value) (l : Loading) (document : Document) :
    Loading × Option LoadError :=
  let (log, result) := Resource.ofDocument l.resources.root file schemaUrl document
  let l := { l with log := l.log ++ log }
  match result with
  | .ok r => ({ l with resources := l.resources.add r }, none)
  | .error e => (l, some (.resource e))

/-- Adds what the documents of one file describe. -/
def addDocuments (file : String) (schemaUrl : Value) (l : Loading) :
    List Document → Loading × Option LoadError
  | [] => (l, none)
  | document :: rest =>
    match addDocument file schemaUrl l document with
    | (l, none) => addDocuments file schemaUrl l rest
    | failed => failed

/-- An empty document describes nothing. -/
def isEmpty : Document → Bool
  | .scalar .null => true
  | _ => false

/-- Adds what a file describes. Its documents are read before the first one is looked at. -/
def addFile (schemaUrl : Value) (l : Loading) (found : Found) : Loading × Option LoadError :=
  let (file, text) := found
  match Yaml.readAll l.version (Text.asRead (Text.dropByteOrderMark text)) with
  | .error .malformed => (l, some (.resource ⟨.undecodable yamlExplanation, file⟩))
  | .error (.badValue fault) => (l, some (.badValue fault))
  | .ok (documents, version) =>
    addDocuments file schemaUrl { l with version } (documents.filter fun d => !isEmpty d)

def addFiles (schemaUrl : Value) (l : Loading) : List Found → Loading × Option LoadError
  | [] => (l, none)
  | found :: rest =>
    match addFile schemaUrl l found with
    | (l, none) => addFiles schemaUrl l rest
    | failed => failed

/-- Adds what an input describes. A pattern that is refused is refused when the input itself is
tried against it. -/
def addInput (w : Workspace) (patterns : List String) (schemaUrl : Value) (l : Loading)
    (path : String) : Loading × Option LoadError :=
  match w.find? path with
  | none => (l, some (.resource ⟨.noSuchInput, path⟩))
  | some tree =>
    match Path.Glob.isIgnored patterns path with
    | .error e => (l, some (.pattern e))
    | .ok _ =>
      let ignored p := (Path.Glob.isIgnored patterns p).toOption.getD false
      addFiles schemaUrl l (tree.manifests ignored path)

def addInputs (w : Workspace) (patterns : List String) (schemaUrl : Value) (l : Loading) :
    List String → Loading × Option LoadError
  | [] => (l, none)
  | path :: rest =>
    match addInput w patterns schemaUrl l path with
    | (l, none) => addInputs w patterns schemaUrl l rest
    | failed => failed

end Loading

namespace ResourceSet

/-- The deepest directory that holds all paths, which are absolute. -/
def commonRoot (w : Workspace) (paths : List String) : String :=
  let shared := Path.commonAbsolute paths
  if w.hasFile shared then Path.directory shared else shared

/-- Loads the resources of the inputs, and what is logged on the way. -/
def load (w : Workspace) (patterns : List String) (schemaUrl : Value) (inputs : List String) :
    List LogLine × Except LoadError ResourceSet :=
  let paths := inputs.map w.absolute
  let start : Loading := ⟨.empty (commonRoot w paths), .default, []⟩
  match start.addInputs w patterns schemaUrl paths with
  | (l, none) => (l.log, .ok l.resources)
  | (l, some e) => (l.log, .error e)

end ResourceSet

end TypedManifests
