/-
Module: TypedManifests.CommandLine.Program
Purpose: The program: a command line, what stands on the standard input, and a world give what is
  shown, the exit code and the world after.
Main exports: Printed, Outcome, Outcome.ofResult, runConvert, differenceItem, typeItems, run
-/
import TypedManifests.CommandLine.Request
import TypedManifests.Console.Item
import TypedManifests.Run.Conversion
import TypedManifests.Settings.File

namespace TypedManifests.CommandLine

/-- What is printed apart from the console. -/
inductive Printed where
  | nothing
  | version
  | help
deriving DecidableEq, Repr

/-- Why a request fails. -/
inductive RequestError where
  | settingsFile (error : SettingsFileError)
  | settings (error : SettingsError)
  | run (error : RunError)
  | file (error : FileError)
  | malformedSamples (path : String)
  | badSamples (fault : Yaml.ValueFault)
  | type (source : String) (error : TypeExpr.ReadError)
  | markup (error : Markup.MarkupError)
  | shape (error : ShapeError)
deriving Repr

namespace RequestError

def message : RequestError → String
  | .settingsFile e => e.message yamlExplanation
  | .settings e => e.message
  | .run e => e.message
  | .file e => e.message
  | .malformedSamples path => "Samples file " ++ path ++ " is not valid YAML: " ++ yamlExplanation
  | .badSamples fault => fault.message
  | .type source e => e.message source
  | .markup e => e.message
  | .shape e => e.message

/-- Settings that are refused; but a timeout beyond all numbers is not expected, nor is a layer that
names the settings themselves. -/
def expectsSettings : SettingsError → Bool
  | .timeoutTooLarge | .ownName => false
  | _ => true

/-- The failure is shown to the user; any other ends the program. -/
def isExpected : RequestError → Bool
  | .settingsFile (.badValue _) => false
  | .settingsFile (.badSettings e) => expectsSettings e
  | .settingsFile _ => true
  | .settings e => expectsSettings e
  | .run e => e.isExpected
  | .file _ | .malformedSamples _ | .type .. => true
  | .badSamples _ | .markup _ | .shape _ => false

end RequestError

/-- How a request ends. -/
structure Outcome where
  /-- There is no exit code if the program was ended by a failure. -/
  exit : Option Nat
  raised : Option RequestError
  console : List ConsoleItem
  printed : Printed
deriving Repr

namespace Outcome

/-- The end of a request that only prints. -/
def printing (exit : Nat) (printed : Printed) : Outcome := ⟨some exit, none, [], printed⟩

/-- The end of a request that came to a result, or failed. -/
def ofResult (shown : List ConsoleItem) : Except RequestError (List ConsoleItem × Nat) → Outcome
  | .ok (items, exit) => ⟨some exit, none, shown ++ items, .nothing⟩
  | .error e =>
    if e.isExpected then ⟨some 1, none, shown ++ [.failure e.message], .nothing⟩
    else ⟨none, some e, shown, .nothing⟩

end Outcome

/-- The name, and after it the value. -/
def versionRows : List (String × String) :=
  [("version:", "0.1.0"), ("commit:", "unknown"), ("build date:", "unknown")]

/-- The rows with their values in one column. -/
def versionText : String :=
  let width := (versionRows.map fun row => row.1.length).foldl max 0 + 1
  String.intercalate "\n" (versionRows.map fun (name, value) =>
    name ++ String.ofList (List.replicate (width - name.length) ' ') ++ value)

/-- The settings of the file, if there is one, with the layer of the command line on top. -/
def settingsOf (w : World) (file : Option String) (layer : SettingsLayer) :
    Except RequestError Settings := do
  let base ←
    match file with
    | some path => (Settings.load w.files path).mapError .settingsFile
    | none => .ok .default
  (base.merged layer).mapError .settings

/-- Converts and shows the report. -/
def runConvert (w : World) (request : ConvertRequest) : Outcome × World :=
  match settingsOf w request.settingsFile request.layer with
  | .error e => (.ofResult [] (.error e), w)
  | .ok s =>
    if !s.output.truthy then
      (.ofResult [] (.ok ([.failure "--output is required."], 1)), w)
    else
      let (result, after) := (Conversion.convert s request.paths).start w
      let shown := (result.mapError .run).bind fun report =>
        match Report.tableOf report.toEntries with
        | .ok table => .ok ([.table table], 0)
        | .error e => .error (.shape e)
      (.ofResult [.header "Manifest Conversion"] shown, after)

/-- The text that a file has, as it is read. -/
def readFile (w : World) (path : String) : Except RequestError String :=
  ((w.files.read path).mapError .file).map Text.asRead

/-- The sample in a file; an empty file gives none. -/
def readSample (w : World) (path : String) : Except RequestError (Option Value) := do
  let text ← (w.files.read path).mapError RequestError.file
  match Yaml.readOne (Text.asRead (Text.dropByteOrderMark text)) with
  | .error .malformed => .error (.malformedSamples path)
  | .error (.badValue fault) => .error (.badSamples fault)
  | .ok .null => return none
  | .ok v => return some v

/-- The difference of both types in their block form. -/
def differenceItem (st : Strengthening) (name : String) : Except RequestError ConsoleItem :=
  let before := st.given.print .block 0
  let after := st.result.print .block 0
  (ConsoleItem.ofStrengthening before after name).mapError .markup

/-- Strengthens a type and shows it. -/
def typeItems (w : World) (stdin : String) (request : TypeRequest) :
    Except RequestError (List ConsoleItem × Nat) := do
  let s ← settingsOf w request.settingsFile request.layer
  let source ←
    match request.file with
    | some path => readFile w path
    | none => .ok stdin
  let sample ←
    match request.samples with
    | some path => readSample w path
    | none => .ok none
  let layout := if request.compact then .oneLine else .block
  let st ← (s.strengthenType layout source sample).mapError (.type source)
  let difference ←
    if request.difference then do
      pure [← differenceItem st (request.file.getD "stdin")]
    else pure []
  return (difference ++ [.text st.text], 0)

/-- Does what a command line asks for. Without arguments the program names itself and tells its
usage. -/
def run (arguments : List String) (stdin : String) (w : World) : Outcome × World :=
  if arguments.isEmpty then
    ({ Outcome.printing 0 .help with console := [.header "Kubernetes to Dhall"] }, w)
  else
    match Request.ofTexts arguments with
    | .version => (.printing 0 .version, w)
    | .help => (.printing 0 .help, w)
    | .misuse => (.printing 2 .nothing, w)
    | .convert request => runConvert w request
    | .type request => (.ofResult [] (typeItems w stdin request), w)

end TypedManifests.CommandLine
