/-
Module: TypedManifests.Settings
Purpose: The options of a run, and the layers that give them values.
Main exports: SettingName, TypeSource, Settings, SettingsError, Settings.check, Settings.ofOptions,
  Settings.merged, Settings.strengthenType, Settings.conform
-/
import TypedManifests.Number.Reading
import TypedManifests.Reshape
import TypedManifests.Strengthening

/-!
The settings of a run. Each option has a default; later layers replace the values of the options
they give, and every layer is checked before it takes effect.
-/

namespace TypedManifests

/-- The options of a run. -/
inductive SettingName where
  | output | typeFile | schemaFile | componentsFile | timeout | ignore | schemaUrl | typeSource
  | strengthen | keyFields | imageFields | imageDigest
deriving DecidableEq, Repr

namespace SettingName

def all : List SettingName :=
  [.output, .typeFile, .schemaFile, .componentsFile, .timeout, .ignore, .schemaUrl, .typeSource,
   .strengthen, .keyFields, .imageFields, .imageDigest]

/-- The name by which an option is set. -/
def text : SettingName → String
  | .output => "output"
  | .typeFile => "type_file"
  | .schemaFile => "schema_file"
  | .componentsFile => "components_file"
  | .timeout => "timeout"
  | .ignore => "ignore"
  | .schemaUrl => "schema_url"
  | .typeSource => "type_source"
  | .strengthen => "strengthen"
  | .keyFields => "key_fields"
  | .imageFields => "image_fields"
  | .imageDigest => "image_digest"

def ofText? (name : String) : Option SettingName := all.find? (·.text = name)

end SettingName

/-- Where the type of the record comes from. -/
inductive TypeSource where
  /-- An outside command infers it from the data. -/
  | infer
  /-- It is composed of the types of the schema package. -/
  | schemaPackage
deriving DecidableEq, Repr

namespace TypeSource

def text : TypeSource → String
  | .infer => "infer"
  | .schemaPackage => "k8s"

def all : List TypeSource := [.infer, .schemaPackage]

def ofValue? (v : Value) : Option TypeSource := all.find? fun source => v.isTextOf source.text

end TypeSource

/-- Checked settings. Files, the schema's address and the two switches take any value. -/
structure Settings where
  output : Value
  typeFile : Value
  schemaFile : Value
  componentsFile : Value
  timeout : Binary64
  ignore : List String
  schemaUrl : Value
  typeSource : TypeSource
  strengthen : Value
  keyFields : List String
  imageFields : List String
  imageDigest : Value
deriving Repr

/-- Options by their names, as a file or a command line gives them. -/
abbrev SettingsLayer := List (String × Value)

inductive SettingsError where
  | badTypeSource (given : Value)
  | timeoutNotANumber (given : Value)
  | timeoutTooLarge
  | timeoutNotPositive
  /-- The option takes a list of texts. -/
  | notTexts (option : SettingName)
  /-- Names that are no options, sorted. -/
  | unknownOptions (names : List String)
  /-- A layer gives an option the name that the settings themselves have. -/
  | ownName
deriving Repr

/-- The name by which a layer is told of the settings that it is put on. -/
def Settings.ownName : String := "self"

namespace SettingsError

def message : SettingsError → String
  | .badTypeSource given =>
    "type_source must be one of " ++ String.intercalate ", " (TypeSource.all.map (·.text)) ++
      ", got '" ++ given.display ++ "'"
  | .timeoutNotANumber given => "timeout must be a number of seconds, got " ++ given.literal
  | .timeoutTooLarge => "int too large to convert to float"
  | .timeoutNotPositive => "timeout must be positive"
  | .notTexts option => option.text ++ " must be a list of strings"
  | .unknownOptions names => "Unknown config option(s): " ++ String.intercalate ", " names
  | .ownName =>
    "ConvertConfig.merged() got multiple values for argument '" ++ Settings.ownName ++ "'"

end SettingsError

namespace Settings

/-- The schema package that types refer to unless another one is given. -/
def defaultSchemaUrl : String :=
  "https://raw.githubusercontent.com/dhall-lang/dhall-kubernetes/" ++
    "a4126b7f8f0c0935e4d86f0f596176c41efbe6fe/1.18/schemas.dhall"

/-- The value that an option has before any layer. -/
def defaultValue : SettingName → Value
  | .output | .typeFile | .schemaFile | .componentsFile => .null
  | .timeout => .float (.ofInt 180)
  | .ignore => .list []
  | .schemaUrl => .text defaultSchemaUrl
  | .typeSource => .text TypeSource.infer.text
  | .strengthen => .bool true
  | .keyFields => .ofTexts ["name"]
  | .imageFields => .ofTexts ["image"]
  | .imageDigest => .bool false

/-- The number of seconds that a value stands for. -/
def seconds (v : Value) : Except SettingsError Binary64 :=
  match v with
  | .bool b => .ok (.ofInt (if b then 1 else 0))
  | .float x => .ok x
  | .int i =>
    match Binary64.ofInt i with
    | .infinite _ => .error .timeoutTooLarge
    | x => .ok x
  | .text s =>
    match Number.ofText? s with
    | some x => .ok x
    | none => .error (.timeoutNotANumber v)
  | _ => .error (.timeoutNotANumber v)

/-- The texts that an option lists. -/
def textsOf (options : SettingName → Value) (name : SettingName) :
    Except SettingsError (List String) :=
  match (options name).texts? with
  | some texts => .ok texts
  | none => .error (.notTexts name)

/-- The settings with the given option values, or the first fault among them. -/
def check (options : SettingName → Value) : Except SettingsError Settings := do
  let typeSource ←
    match TypeSource.ofValue? (options .typeSource) with
    | some source => .ok source
    | none => .error (.badTypeSource (options .typeSource))
  let timeout ← seconds (options .timeout)
  if !timeout.isPositiveOrNan then .error .timeoutNotPositive
  let ignore ← textsOf options .ignore
  let keyFields ← textsOf options .keyFields
  let imageFields ← textsOf options .imageFields
  return {
    output := options .output
    typeFile := options .typeFile
    schemaFile := options .schemaFile
    componentsFile := options .componentsFile
    timeout, ignore, typeSource, keyFields, imageFields
    schemaUrl := options .schemaUrl
    strengthen := options .strengthen
    imageDigest := options .imageDigest }

/-- The value of an option. -/
def value (s : Settings) : SettingName → Value
  | .output => s.output
  | .typeFile => s.typeFile
  | .schemaFile => s.schemaFile
  | .componentsFile => s.componentsFile
  | .timeout => .float s.timeout
  | .ignore => .ofTexts s.ignore
  | .schemaUrl => s.schemaUrl
  | .typeSource => .text s.typeSource.text
  | .strengthen => s.strengthen
  | .keyFields => .ofTexts s.keyFields
  | .imageFields => .ofTexts s.imageFields
  | .imageDigest => s.imageDigest

/-- The names among `options` that no option has, sorted and each once. -/
def unknownNames (options : SettingsLayer) : List String :=
  ((options.map Prod.fst).filter fun name => (SettingName.ofText? name).isNone).eraseDups.mergeSort
    fun a b => a ≤ b

/-- The value that `options` give to an option; of several the last. -/
def given? (options : SettingsLayer) (name : SettingName) : Option Value :=
  (options.reverse.find? fun option => option.1 = name.text).map Prod.snd

/-- The settings with the given options and the defaults of the others. -/
def ofOptions (options : SettingsLayer) : Except SettingsError Settings :=
  match unknownNames options with
  | [] => check fun name => (given? options name).getD (defaultValue name)
  | names => .error (.unknownOptions names)

/-- The settings with a layer put on top: an option that the layer gives takes its value, unless
that is null. -/
def merged (s : Settings) (options : SettingsLayer) : Except SettingsError Settings :=
  if ownName ∈ options.map Prod.fst then .error .ownName
  else
    match unknownNames options with
    | [] =>
      check fun name =>
        match given? options name with
        | none | some .null => s.value name
        | some v => v
    | names => .error (.unknownOptions names)

/-- The settings before any layer. -/
def default : Settings where
  output := .null
  typeFile := .null
  schemaFile := .null
  componentsFile := .null
  timeout := .ofInt 180
  ignore := []
  schemaUrl := .text defaultSchemaUrl
  typeSource := .infer
  strengthen := .bool true
  keyFields := ["name"]
  imageFields := ["image"]
  imageDigest := .bool false

instance : Inhabited Settings := ⟨default⟩

/-- The conventions for image references. -/
def conventions (s : Settings) : List ImageConvention :=
  if s.imageFields.isEmpty then [] else [⟨s.imageFields, s.imageDigest.truthy⟩]

/-- The passes that strengthen a type, given an index of the sample data. Lists come before text
fields. -/
def passes (s : Settings) (index : Option SampleIndex) : List Pass :=
  if !s.strengthen.truthy then []
  else
    (match index with
      | some i => if s.keyFields.isEmpty then [] else [.listToRecord i s.keyFields]
      | none => []) ++
    (if s.conventions.isEmpty then [] else [.conventions s.conventions])

/-- The passes that go with a sample. -/
def passesFor (s : Settings) (sample : Option Value) : List Pass :=
  s.passes (sample.map (SampleIndex.ofValue s.keyFields))

/-- Strengthens the type that a text denotes by a sample of its data. -/
def strengthenType (s : Settings) (layout : TypeExpr.Layout) (source : String)
    (sample : Option Value) : Except TypeExpr.ReadError Strengthening :=
  Strengthening.ofText (s.passesFor sample) layout source

/-- Brings data into the shape of a type that was strengthened under these settings. -/
def conform (s : Settings) (type : TypeExpr) (data : Value) : Value :=
  conformData s.conventions s.keyFields type data

end Settings

end TypedManifests
