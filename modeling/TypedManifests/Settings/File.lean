/-
Module: TypedManifests.Settings.File
Purpose: Settings from a file: one YAML document, a mapping from option names to values. In the
  names hyphens stand for underscores.
Main exports: SettingsFileError, ofDocument, load
-/
import TypedManifests.Files.Workspace
import TypedManifests.Settings
import TypedManifests.Text.Lines
import TypedManifests.Yaml.Documents

namespace TypedManifests

/-- Why a file gives no settings. -/
inductive SettingsFileError where
  | missing (path : String)
  | malformed (path : String)
  | notAMapping (path : String)
  | unreadable (error : FileError)
  | badValue (fault : Yaml.ValueFault)
  | badSettings (error : SettingsError)
deriving Repr

namespace SettingsFileError

/-- The message; `explanation` tells what is wrong with a YAML text that is not well formed. -/
def message (explanation : String) : SettingsFileError → String
  | .missing path => "Config file not found: " ++ path
  | .malformed path => "Config file " ++ path ++ " is not valid YAML: " ++ explanation
  | .notAMapping path => "Config file " ++ path ++ " must contain a mapping"
  | .unreadable error => error.message
  | .badValue fault => fault.message
  | .badSettings error => error.message

end SettingsFileError

namespace Settings

/-- The name of the option that a key sets. -/
def optionName (key : Value) : String :=
  String.ofList (key.keyText.toList.map fun c => if c = '-' then '_' else c)

/-- The settings that a document gives. -/
def ofDocument (path : String) : Value → Except SettingsFileError Settings
  | .null => .ok default
  | .map entries =>
    (default.merged (entries.map fun (key, v) => (optionName key, v))).mapError .badSettings
  | _ => .error (.notAMapping path)

/-- The settings that a file gives. -/
def load (w : Workspace) (path : String) : Except SettingsFileError Settings :=
  let path := Path.tidy path
  match w.read path with
  | .error e => .error (if e.fault = .notFound then .missing path else .unreadable e)
  | .ok text =>
    match Yaml.readOne (Text.asRead text) with
    | .error .malformed => .error (.malformed path)
    | .error (.badValue fault) => .error (.badValue fault)
    | .ok document => ofDocument path document

end Settings

end TypedManifests
