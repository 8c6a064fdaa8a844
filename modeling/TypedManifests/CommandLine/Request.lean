/-
Module: TypedManifests.CommandLine.Request
Purpose: What a command line asks for: to convert manifests, to strengthen a type, or to be told the
  version or the usage.
Main exports: ConvertRequest, TypeRequest, Request, mainSwitches, convertSwitches, typeSwitches,
  Request.ofTexts
-/
import TypedManifests.CommandLine.Switch
import TypedManifests.Settings

namespace TypedManifests.CommandLine

/-- What is converted, and under which settings. -/
structure ConvertRequest where
  paths : List String
  settingsFile : Option String
  layer : SettingsLayer
deriving Repr

/-- Which type is strengthened, by which sample, and how it is shown. -/
structure TypeRequest where
  file : Option String
  samples : Option String
  settingsFile : Option String
  layer : SettingsLayer
  compact : Bool
  difference : Bool
deriving Repr

inductive Request where
  | version
  | help
  /-- Nothing that can be asked for. -/
  | misuse
  | convert (request : ConvertRequest)
  | type (request : TypeRequest)
deriving Repr

/-! ### The switches -/

inductive MainKey where
  | help | version | debug
deriving DecidableEq, Repr

inductive ConvertKey where
  | help
  | setting (name : SettingName)
  | noStrengthen
  | settingsFile
deriving DecidableEq, Repr

inductive TypeKey where
  | help | samples | noStrengthen | compact | difference | settingsFile
deriving DecidableEq, Repr

def mainSwitches : List (Switch MainKey) :=
  [⟨["-h", "--help"], false, .help⟩, ⟨["-v", "--version"], false, .version⟩,
   ⟨["--debug"], false, .debug⟩]

def convertSwitches : List (Switch ConvertKey) :=
  [⟨["-h", "--help"], false, .help⟩,
   ⟨["-o", "--output"], true, .setting .output⟩,
   ⟨["-t", "--type"], true, .setting .typeFile⟩,
   ⟨["-s", "--schema"], true, .setting .schemaFile⟩,
   ⟨["-c", "--components"], true, .setting .componentsFile⟩,
   ⟨["--timeout"], true, .setting .timeout⟩,
   ⟨["-i", "--ignore"], true, .setting .ignore⟩,
   ⟨["-u", "--k8s-schema-url"], true, .setting .schemaUrl⟩,
   ⟨["--type-source"], true, .setting .typeSource⟩,
   ⟨["--no-strengthen"], false, .noStrengthen⟩,
   ⟨["--config"], true, .settingsFile⟩]

def typeSwitches : List (Switch TypeKey) :=
  [⟨["-h", "--help"], false, .help⟩,
   ⟨["--samples"], true, .samples⟩,
   ⟨["--no-strengthen"], false, .noStrengthen⟩,
   ⟨["--compact"], false, .compact⟩,
   ⟨["--diff"], false, .difference⟩,
   ⟨["--config"], true, .settingsFile⟩]

/-! ### From events to requests -/

/-- A file that is named by a text other than the empty one. -/
def fileOf (text : String) : Option String := if text = "" then none else some text

/-- Adds a value to the list that a layer gives to an option. -/
def addItem (name : SettingName) (v : Value) (layer : SettingsLayer) : SettingsLayer :=
  match layer.lookup name.text with
  | some (.list items) =>
    (layer.filter fun option => option.1 ≠ name.text) ++ [(name.text, .list (items ++ [v]))]
  | _ => layer ++ [(name.text, .list [v])]

def noStrengthening : String × Value := (SettingName.strengthen.text, .bool false)

/-- The layer with an option that a switch gives; some texts are no values for it. -/
def setOption? (name : SettingName) (given : String) (layer : SettingsLayer) :
    Option SettingsLayer :=
  match name with
  | .timeout =>
    (Number.ofText? given).map fun seconds => layer ++ [(name.text, .float seconds)]
  | .typeSource =>
    if (TypeSource.ofValue? (.text given)).isSome then some (layer ++ [(name.text, .text given)])
    else none
  | .ignore => some (addItem name (.text given) layer)
  | _ => some (layer ++ [(name.text, .text given)])

/-- Takes events one by one; the usage is told as soon as it is asked for. -/
def ofEvents (step : α → Event κ → Option α) (asksHelp : Event κ → Bool) (finish : α → Request)
    (broken : Bool) (request : α) : List (Event κ) → Request
  | [] => if broken then .misuse else finish request
  | event :: rest =>
    if asksHelp event then .help
    else
      match step request event with
      | none => .misuse
      | some request => ofEvents step asksHelp finish broken request rest

def ConvertRequest.step (r : ConvertRequest) : Event ConvertKey → Option ConvertRequest
  | .flag .noStrengthen => some { r with layer := r.layer ++ [noStrengthening] }
  | .value (.setting name) given =>
    (setOption? name given r.layer).map fun layer => { r with layer }
  | .value .settingsFile given => some { r with settingsFile := fileOf given }
  | .words paths => some { r with paths }
  | _ => some r

def TypeRequest.step (r : TypeRequest) : Event TypeKey → Option TypeRequest
  | .flag .noStrengthen => some { r with layer := r.layer ++ [noStrengthening] }
  | .flag .compact => some { r with compact := true }
  | .flag .difference => some { r with difference := true }
  | .value .samples given => some { r with samples := fileOf given }
  | .value .settingsFile given => some { r with settingsFile := fileOf given }
  | .words words => some { r with file := words.head?.bind fileOf }
  | _ => some r

/-- The request of the arguments of one command; `hasExtra` tells of arguments before the command
that have no place. -/
def ofCommand (switches : List (Switch κ)) (room : Reading.Room) (step : α → Event κ → Option α)
    (asksHelp : Event κ → Bool) (finish : α → Request) (empty : α) (hasExtra : Bool)
    (arguments : List String) : Request :=
  match Argument.ofTexts? switches arguments with
  | none => .misuse
  | some arguments =>
    let r := Reading.ofArguments switches (some room) arguments
    ofEvents step asksHelp finish (r.isBroken || r.hasExtra || hasExtra) empty r.events

def ofConvert (hasExtra : Bool) (arguments : List String) : Request :=
  ofCommand convertSwitches .any ConvertRequest.step
    (fun event => match event with | .flag .help => true | _ => false)
    .convert ⟨[], none, []⟩ hasExtra arguments

def ofType (hasExtra : Bool) (arguments : List String) : Request :=
  ofCommand typeSwitches .one TypeRequest.step
    (fun event => match event with | .flag .help => true | _ => false)
    .type ⟨none, none, none, [], false, false⟩ hasExtra arguments

/-- The request of a command by its name. -/
def ofName (name : String) (hasExtra : Bool) (arguments : List String) : Request :=
  if name = "convert" then ofConvert hasExtra arguments
  else if name = "type" then ofType hasExtra arguments
  else .misuse

/-- What the flags before the command ask for. -/
def ofFlags : List MainKey → Option Request
  | [] => none
  | .help :: _ => some .help
  | .version :: _ => some .version
  | .debug :: rest => ofFlags rest

/-- Reads flags as far as the command, given what each argument is. -/
def ofArguments (hasExtra : Bool) : List (String × Argument MainKey) → Request
  | [] => if hasExtra then .misuse else .help
  | (_, .switch s name joined) :: rest =>
    match Reading.flagsOf mainSwitches s name joined with
    | none => .misuse
    | some (keys, ending) =>
      match ofFlags keys with
      | some request => request
      | none => ofArguments (hasExtra || ending matches .unknown) rest
  | (_, .unknown) :: rest => ofArguments true rest
  | (_, .separator) :: _ => .misuse
  | (name, .word _) :: rest => ofName name hasExtra (rest.map Prod.fst)

/-- What a command line asks for. Without a command it is the usage. -/
def Request.ofTexts (arguments : List String) : Request :=
  match Argument.ofTexts? mainSwitches arguments with
  | none => .misuse
  | some classified => ofArguments false (arguments.zip classified)

end TypedManifests.CommandLine
