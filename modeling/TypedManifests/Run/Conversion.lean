/-
Module: TypedManifests.Run.Conversion
Purpose: A whole conversion, from its inputs to its report.
Main exports: Derived, derive, encodeRecord, convert
-/
import TypedManifests.Manifest.Components
import TypedManifests.Manifest.KeyOrder
import TypedManifests.Run.Output
import TypedManifests.Run.Report
import TypedManifests.TypeExpr.ErrorMessage
import TypedManifests.Yaml.Writer

/-!
A conversion: the manifests are loaded and merged into one record, the record's type is derived, and
the record is encoded by that type. Beside the record the type, a schema of both, and a summary of
the components are written if the settings name files for them.
-/

namespace TypedManifests.Conversion

open Run

def engineLine (level : LogLevel) (text : String) : LogLine := ⟨level, "kubedhall.engine", text⟩

def info (text : String) : Run Unit := note (engineLine .info text)

/-- The YAML text of a value, with the well-known keys of each mapping first. -/
def yamlText (v : Value) : String := v.ordered.toYaml

/-- The type by which a record is encoded, the record in its shape, and what strengthening came to.
-/
structure Derived where
  type : String
  data : Value
  strengthened : Bool
  applied : List String

/-- The type and the record as they are. -/
def Derived.plain (type : String) (data : Value) : Derived := ⟨type, data, false, []⟩

/-- Derives the type of the merged record. An inferred type that is no record type is used as it
is. -/
def derive (s : Settings) (resources : ResourceSet) : Run Derived := do
  let data := Value.map resources.record
  match s.typeSource with
  | .schemaPackage => return .plain resources.schemaType data
  | .infer => do
    info "execute yaml-to-dhall type"
    let inferred ← inferType (.float s.timeout) (yamlText data)
    if !s.strengthen.truthy then return .plain inferred data
    match s.strengthenType .block inferred (some data) with
    | .error e => do
      note (engineLine .warning
        ("inferred type could not be parsed, using it unstrengthened: " ++ e.message inferred))
      return .plain inferred data
    | .ok st => return ⟨st.text, s.conform st.result data, st.changed, st.applied⟩

/-- Where the record is left when it cannot be encoded: beside the output. The path begins with one
slash, also if that of the output begins with two. -/
def dumpPath (files : Workspace) (output : String) : String :=
  Path.ofNames "/" ((Path.names (files.absolute output)).dropLast ++ ["record.yaml"])

/-- Encodes the record into the output. If the command fails the record is left as YAML text. -/
def encodeRecord (s : Settings) (derived : Derived) : Run Unit :=
  let yaml := yamlText derived.data
  tryCatch (encode (.float s.timeout) derived.type yaml s.output) fun e => do
    match e with
    | .command _ => do
      let path := dumpPath (← files) (← ofExcept .shape s.output.asPath)
      writeFile path yaml
      note (engineLine .error ("failed to execute yaml-to-dhall, record written to " ++ path))
      fail e
    | _ => fail e

/-- The text of a schema. -/
def schemaText (type record : String) : String :=
  "\x7b Type = " ++ type ++ ", default = " ++ record ++ " \x7d"

/-- Writes a file if the settings name one, and tells which. -/
def writeIf (path : Value) (write : Run Unit) : Run (List Value) := do
  if path.truthy then do
    write
    return [path]
  else return []

/-- Converts the inputs, or the working directory if there are none. -/
def convert (s : Settings) (inputs : List String) : Run Report := do
  if !s.output.truthy then fail .noOutput
  let here := (← files).path
  let inputs := if inputs.isEmpty then [here] else inputs
  info ("loading resources from " ++ String.intercalate ", " inputs)
  let (log, loaded) := ResourceSet.load (← files) s.ignore s.schemaUrl inputs
  log.forM note
  let resources ← ofExcept .load loaded
  let derived ← derive s resources
  let typeFiles ← writeIf s.typeFile (writeGenerated s.typeFile derived.type)
  info ("execute yaml-to-dhall, destination " ++ s.output.display)
  encodeRecord s derived
  format s.output
  addBanner s.output banner
  let schemaFiles ← writeIf s.schemaFile do
    let record ← readFile (Path.tidy (← ofExcept .shape s.output.asPath))
    writeGenerated s.schemaFile (schemaText derived.type record)
  let componentFiles ← writeIf s.componentsFile
    (replaceFile s.componentsFile (yamlText (Components.summarize derived.data)))
  info "done"
  return {
    output := s.output
    resources := resources.resources.length
    components := (resources.record.map fun entry => entry.1.display).mergeSort fun a b => a ≤ b
    typeSource := s.typeSource
    strengthened := derived.strengthened
    appliedPasses := derived.applied
    written := typeFiles ++ [s.output] ++ schemaFiles ++ componentFiles }

end TypedManifests.Conversion
