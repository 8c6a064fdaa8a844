/-
Module: TypedManifests.Proofs.RunParts
Purpose: A conversion in two halves, one that loads and one that makes the files, and what has to
  hold of the parts of the second half so that it holds of the whole of it.
Main exports: Conversion.loadInputs, Conversion.produce, Conversion.convert_eq_halves,
  Conversion.start_convert, Conversion.finish_eq_ok, CallKind, Conversion.protocol, Composes,
  FileParts, Parts, Parts.produce
-/
import TypedManifests.Proofs.RunSteps

/-!
What is said of all runs of a conversion is said of its parts first: of the calls of commands, of
the replacing of files, of the reading. The order in which a conversion puts its parts together is
gone through once here, for any property that goes over from two steps to one after the other. The
property may speak of the commands that are called, which are counted along: every part comes with
the kinds of calls that it makes when it succeeds.
-/

namespace TypedManifests

namespace Run

/-- Two steps one after the other succeed if both do. -/
theorem bind_eq_ok {α β : Type} {x : Run α} {f : α → Run β} {w w' : World} {b : β} :
    (x >>= f).start w = (.ok b, w') ↔
      ∃ a between, x.start w = (.ok a, between) ∧ (f a).start between = (.ok b, w') := by
  rw [start_bind]
  rcases x.start w with ⟨_ | a, between⟩
  · simp
  · constructor
    · exact fun run => ⟨a, between, rfl, run⟩
    · rintro ⟨_, _, ⟨⟩, run⟩
      exact run

/-- A failure is one of the first step, or one of the second step after the first one succeeded. -/
theorem bind_eq_error {α β : Type} {x : Run α} {f : α → Run β} {w w' : World} {e : RunError} :
    (x >>= f).start w = (.error e, w') ↔
      x.start w = (.error e, w') ∨
        ∃ a between, x.start w = (.ok a, between) ∧ (f a).start between = (.error e, w') := by
  rw [start_bind]
  rcases x.start w with ⟨_ | a, between⟩
  · simp
  · constructor
    · exact fun run => Or.inr ⟨a, between, rfl, run⟩
    · rintro (⟨⟨⟩⟩ | ⟨_, _, ⟨⟩, run⟩)
      exact run

theorem start_forM_note (lines : List LogLine) (w : World) :
    (lines.forM note).start w = (.ok (), { w with log := w.log ++ lines }) := by
  induction lines generalizing w with
  | nil => simp [List.forM]
  | cons line lines ih =>
      rw [List.forM, start_bind, start_note]
      exact (ih _).trans (by simp)

end Run

namespace Conversion

open Run

/-!
### Loading and producing
-/

section Halves

variable {s : Settings}

/-- What a run loads: its inputs, or the working directory if there are none. -/
def loadedFrom (s : Settings) (inputs : List String) (files : Workspace) :
    List LogLine × Except LoadError ResourceSet :=
  ResourceSet.load files s.ignore s.schemaUrl (if inputs.isEmpty then [files.path] else inputs)

/-- What a conversion does before it has its resources. -/
def loadInputs (s : Settings) (inputs : List String) : Run ResourceSet := do
  if !s.output.truthy then fail .noOutput
  let here := (← files).path
  let inputs := if inputs.isEmpty then [here] else inputs
  info ("loading resources from " ++ String.intercalate ", " inputs)
  let (log, loaded) := ResourceSet.load (← files) s.ignore s.schemaUrl inputs
  log.forM note
  ofExcept .load loaded

/-- What a conversion does with its resources. -/
def produce (s : Settings) (resources : ResourceSet) : Run Report := do
  let derived ← derive s resources
  let typeFiles ← writeIf s.typeFile (writeGenerated s.typeFile derived.type)
  info ("execute yaml-to-dhall, destination " ++ s.output.display)
  encodeRecord s derived
  finish s ⟨resources, derived, typeFiles⟩

theorem convert_eq_halves (s : Settings) (inputs : List String) :
    convert s inputs = loadInputs s inputs >>= produce s := by
  rw [convert_eq_stages]
  unfold prepare loadInputs produce
  cases s.output.truthy <;>
    simp only [Bool.not_true, Bool.not_false, Bool.false_eq_true, if_true, if_false, bind_assoc,
      pure_bind]

theorem prepare_eq_halves (s : Settings) (inputs : List String) :
    prepare s inputs = (do
      let resources ← loadInputs s inputs
      let derived ← derive s resources
      let typeFiles ← writeIf s.typeFile (writeGenerated s.typeFile derived.type)
      info ("execute yaml-to-dhall, destination " ++ s.output.display)
      return ⟨resources, derived, typeFiles⟩) := by
  unfold prepare loadInputs
  cases s.output.truthy <;>
    simp only [Bool.not_true, Bool.not_false, Bool.false_eq_true, if_true, if_false, bind_assoc]

/-- Nothing is loaded if no output is named. -/
theorem start_loadInputs_of_unset (unset : s.output.truthy = false) (inputs : List String)
    (w : World) : (loadInputs s inputs).start w = (.error .noOutput, w) := by
  unfold loadInputs
  simp [unset, start_bind]

/-- Loading looks at the files and writes to the log only. -/
theorem start_loadInputs (wanted : s.output.truthy = true) (inputs : List String) (w : World) :
    ∃ log, (loadInputs s inputs).start w =
      ((loadedFrom s inputs w.files).2.mapError .load, { w with log }) := by
  unfold loadInputs
  simp only [wanted, Bool.not_true, Bool.false_eq_true, if_false, start_bind, start_files, info,
    start_note, start_forM_note, loadedFrom]
  cases (ResourceSet.load w.files s.ignore s.schemaUrl
    (if inputs.isEmpty then [w.files.path] else inputs)).2 <;> exact ⟨_, rfl⟩

/-- A run ends at once if no output is named, with the failure of the loading if there is one, and
else as the making of the files does, which begins with the files, replies and calls of the run. -/
theorem start_convert (s : Settings) (inputs : List String) (w : World) :
    (s.output.truthy = false ∧ (convert s inputs).start w = (.error .noOutput, w)) ∨
      s.output.truthy = true ∧ ∃ log,
        (∃ e, (loadedFrom s inputs w.files).2 = .error e ∧
          (convert s inputs).start w = (.error (.load e), { w with log })) ∨
        ∃ resources, (loadedFrom s inputs w.files).2 = .ok resources ∧
          (convert s inputs).start w = (produce s resources).start { w with log } := by
  cases wanted : s.output.truthy with
  | false =>
      apply Or.inl
      constructor
      · rfl
      · rw [convert_eq_halves, start_bind, start_loadInputs_of_unset wanted]
  | true =>
      apply Or.inr
      obtain ⟨log, loading⟩ := start_loadInputs wanted inputs w
      refine ⟨rfl, log, ?_⟩
      rw [convert_eq_halves, start_bind, loading]
      cases (loadedFrom s inputs w.files).2 with
      | error e => exact Or.inl ⟨e, rfl, rfl⟩
      | ok resources => exact Or.inr ⟨resources, rfl, rfl⟩

/-- The steps by which a run that returns has finished, and the files that it tells of. -/
theorem finish_eq_ok {ready : Prepared} {report : Report} {w after : World}
    (run : (finish s ready).start w = (.ok report, after)) :
    ∃ w₁ w₂ w₃ w₄ schemaFiles componentFiles,
      (format s.output).start w = (.ok (), w₁) ∧
      (addBanner s.output banner).start w₁ = (.ok (), w₂) ∧
      (writeIf s.schemaFile do
        let record ← readFile (Path.tidy (← ofExcept .shape s.output.asPath))
        writeGenerated s.schemaFile (schemaText ready.derived.type record)).start w₂ =
          (.ok schemaFiles, w₃) ∧
      (writeIf s.componentsFile (replaceFile s.componentsFile
        (yamlText (Components.summarize ready.derived.data)))).start w₃ = (.ok componentFiles, w₄) ∧
      (info "done").start w₄ = (.ok (), after) ∧
      report.written = ready.typeFiles ++ [s.output] ++ schemaFiles ++ componentFiles := by
  unfold finish at run
  obtain ⟨_, w₁, laidOut, run⟩ := bind_eq_ok.1 run
  obtain ⟨_, w₂, marked, run⟩ := bind_eq_ok.1 run
  obtain ⟨schemaFiles, w₃, schema, run⟩ := bind_eq_ok.1 run
  obtain ⟨componentFiles, w₄, summary, run⟩ := bind_eq_ok.1 run
  obtain ⟨_, w₅, noted, returned⟩ := bind_eq_ok.1 run
  cases returned
  exact ⟨w₁, w₂, w₃, w₄, schemaFiles, componentFiles, laidOut, marked, schema, summary, noted, rfl⟩

end Halves

end Conversion

/-!
### Kinds of calls
-/

/-- What a conversion calls a command for. -/
inductive CallKind where
  /-- The type of the record is inferred. -/
  | infer
  /-- The record is encoded into the output. -/
  | encode
  /-- A file is laid out. -/
  | format (path : Value)
deriving Repr

namespace Conversion

/-- The calls of the derivation of the type. -/
def derivation (s : Settings) : List CallKind :=
  match s.typeSource with
  | .infer => [.infer]
  | .schemaPackage => []

/-- The call for a file that is written if the settings name it. -/
def layout (path : Value) : List CallKind := if path.truthy then [.format path] else []

/-- The calls of a conversion that nothing ends, in their order. -/
def protocol (s : Settings) : List CallKind :=
  derivation s ++ (layout s.typeFile ++ .encode :: .format s.output :: layout s.schemaFile)

end Conversion

/-!
### Properties that compose
-/

/-- The property goes over from two steps to one after the other, and so do the calls. -/
structure Composes (P : (α : Type) → List CallKind → Run α → Prop) : Prop where
  pure : ∀ {α : Type} (a : α), P α [] (pure a)
  bind : ∀ {α β : Type} {first second : List CallKind} {x : Run α} {f : α → Run β},
    P α first x → (∀ a, P β second (f a)) → P β (first ++ second) (x >>= f)

namespace Composes

variable {P : (α : Type) → List CallKind → Run α → Prop} {α β : Type} {kinds : List CallKind}
  {x : Run α} {f : α → Run β}

/-- A step that calls nothing, and then others. -/
theorem after (composes : Composes P) (silent : P α [] x) (others : ∀ a, P β kinds (f a)) :
    P β kinds (x >>= f) :=
  composes.bind silent others

/-- A step, and then others that call nothing. -/
theorem followed (composes : Composes P) (step : P α kinds x) (silent : ∀ a, P β [] (f a)) :
    P β kinds (x >>= f) := by
  have both := composes.bind step silent
  rwa [List.append_nil] at both

theorem writeIf (composes : Composes P) {path : Value} {write : Run Unit}
    (step : path.truthy = true → P Unit kinds write) :
    P (List Value) (if path.truthy then kinds else []) (Conversion.writeIf path write) := by
  unfold Conversion.writeIf
  cases set : path.truthy with
  | true => exact composes.followed (step set) fun _ => composes.pure _
  | false => exact composes.pure _

end Composes

/-- The property composes and holds of what works on files, so long as it may hold of the failures
that can come of it. -/
structure FileParts (P : (α : Type) → List CallKind → Run α → Prop) (allowed : RunError → Prop) :
    Prop extends Composes P where
  files : P Workspace [] Run.files
  setFiles : ∀ files, P Unit [] (Run.setFiles files)
  fail : ∀ {α : Type} {kinds : List CallKind} {e : RunError}, allowed e → P α kinds (Run.fail e)
  fileFault : ∀ e, allowed (.file e)
  notReplaced : ∀ e, allowed (.notReplaced e)
  noWriteAccess : ∀ directory, allowed (.noWriteAccess directory)

namespace FileParts

variable {P : (α : Type) → List CallKind → Run α → Prop} {allowed : RunError → Prop}
  {α β ε : Type} {kinds : List CallKind}

theorem ofExcept (parts : FileParts P allowed) {wrap : ε → RunError} {result : Except ε α}
    (failure : ∀ e, result = .error e → allowed (wrap e)) : P α [] (Run.ofExcept wrap result) := by
  cases result with
  | ok a => exact parts.pure a
  | error e => exact parts.fail (failure e rfl)

/-- What follows a computation need only be looked at where the computation has a result. -/
theorem ofExcept_bind (parts : FileParts P allowed) {wrap : ε → RunError} {result : Except ε α}
    {f : α → Run β} (failure : ∀ e, result = .error e → allowed (wrap e))
    (others : ∀ a, result = .ok a → P β kinds (f a)) :
    P β kinds (Run.ofExcept wrap result >>= f) := by
  cases result with
  | ok a => exact others a rfl
  | error e => exact parts.fail (failure e rfl)

theorem abandon (parts : FileParts P allowed) (pending : String) {e : RunError}
    (given : allowed e) : P α [] (Run.abandon pending e) := by
  unfold Run.abandon
  refine parts.after parts.files fun files => ?_
  split
  · refine parts.after parts.files fun files => ?_
    apply parts.ofExcept_bind fun fault _ => parts.fileFault fault
    exact fun left _ => parts.after (parts.setFiles left) fun _ => parts.fail given
  · exact parts.fail given

theorem putInPlace (parts : FileParts P allowed) (pending path text : String)
    {refusal : FileError → RunError} (refused : ∀ cause, allowed (refusal cause)) :
    P Unit [] (Run.putInPlace pending path text refusal) := by
  unfold Run.putInPlace
  refine parts.after parts.files fun files => ?_
  split
  · exact parts.abandon pending (refused _)
  · refine parts.after (parts.setFiles _) fun _ => ?_
    refine parts.after parts.files fun files => ?_
    split
    · exact parts.abandon pending (refused _)
    · exact parts.setFiles _

theorem readFile (parts : FileParts P allowed) (path : String) :
    P String [] (Run.readFile path) := by
  unfold Run.readFile
  apply parts.after parts.files
  intro files
  apply parts.ofExcept_bind fun fault _ => parts.fileFault fault
  exact fun text _ => parts.pure (Text.asRead text)

theorem replaceFile (parts : FileParts P allowed) {path : Value} (text : String)
    (shape : ∀ e, path.asPath = .error e → allowed (.shape e))
    (named : ∀ given, path.asPath = .ok given → Path.baseName (Path.tidy given) = "" →
      allowed (.unnamedFile (Path.tidy given)))
    (zero : ∀ given, path.asPath = .ok given →
      holdsZero (Path.parentOf (Path.tidy given)) = true →
        allowed (.zeroInPath (Path.tidy given))) :
    P Unit [] (Run.replaceFile path text) := by
  unfold Run.replaceFile
  apply parts.ofExcept_bind shape
  intro given isPath
  dsimp only
  split
  · next held => exact parts.fail (zero given isPath held)
  · apply parts.after parts.files
    intro files
    split
    · exact parts.fail (parts.noWriteAccess _)
    · split
      · next unnamed => exact parts.fail (named given isPath unnamed)
      · split
        · exact parts.fail (parts.notReplaced _)
        · exact parts.putInPlace _ _ _ parts.notReplaced

theorem addBanner (parts : FileParts P allowed) {path : Value} (banner : String)
    (shape : ∀ e, path.asPath = .error e → allowed (.shape e))
    (zero : ∀ given, path.asPath = .ok given → holdsZero (Path.tidy given) = true →
      allowed (.zeroInPath (Path.tidy given))) :
    P Unit [] (Run.addBanner path banner) := by
  unfold Run.addBanner
  apply parts.ofExcept_bind shape
  intro given isPath
  dsimp only
  split
  · next held => exact parts.fail (zero given isPath held)
  · apply parts.after (parts.readFile _)
    intro text
    apply parts.after parts.files
    exact fun files => parts.putInPlace _ _ _ parts.fileFault

end FileParts

/-!
### The parts of a conversion
-/

namespace Settings

/-- The files that a run writes, if the settings name them, in their order. -/
def namedFiles (s : Settings) : List Value :=
  [s.typeFile, s.output, s.schemaFile, s.componentsFile]

/-- The files that are replaced as a whole, if the settings name them. -/
def replacedFiles (s : Settings) : List Value := [s.typeFile, s.schemaFile, s.componentsFile]

/-- The files that are laid out and get a banner. -/
def generatedFiles (s : Settings) : List Value := [s.typeFile, s.output, s.schemaFile]

variable {s : Settings} {path : Value}

theorem named_of_replaced (replaced : path ∈ s.replacedFiles) : path ∈ s.namedFiles := by
  simp only [replacedFiles, namedFiles, List.mem_cons, List.not_mem_nil, or_false] at replaced ⊢
  rcases replaced with type | schema | components
  · exact Or.inl type
  · exact Or.inr (Or.inr (Or.inl schema))
  · exact Or.inr (Or.inr (Or.inr components))

theorem named_of_generated (generated : path ∈ s.generatedFiles) : path ∈ s.namedFiles := by
  simp only [generatedFiles, namedFiles, List.mem_cons, List.not_mem_nil, or_false] at generated ⊢
  rcases generated with type | output | schema
  · exact Or.inl type
  · exact Or.inr (Or.inl output)
  · exact Or.inr (Or.inr (Or.inl schema))

end Settings

/-- The property composes and holds of the parts that a conversion makes its files of. -/
structure Parts (P : (α : Type) → List CallKind → Run α → Prop) (s : Settings) : Prop
    extends Composes P where
  note : ∀ line, P Unit [] (Run.note line)
  infer : ∀ yaml, P String [.infer] (Run.inferType (.float s.timeout) yaml)
  encodeRecord : ∀ derived, P Unit [.encode] (Conversion.encodeRecord s derived)
  replaceFile : ∀ path ∈ s.replacedFiles, path.truthy = true → ∀ text,
    P Unit [] (Run.replaceFile path text)
  format : ∀ path ∈ s.generatedFiles, path.truthy = true → P Unit [.format path] (Run.format path)
  addBanner : ∀ path ∈ s.generatedFiles, path.truthy = true →
    P Unit [] (Run.addBanner path Run.banner)
  outputPath : P String [] (Run.ofExcept .shape s.output.asPath)
  readFile : ∀ path, P String [] (Run.readFile path)

namespace Parts

open Conversion

variable {P : (α : Type) → List CallKind → Run α → Prop} {s : Settings}

theorem writeGenerated (parts : Parts P s) {path : Value} (replaced : path ∈ s.replacedFiles)
    (generated : path ∈ s.generatedFiles) (set : path.truthy = true) (text : String) :
    P Unit [.format path] (Run.writeGenerated path text) := by
  unfold Run.writeGenerated
  apply parts.after (parts.replaceFile path replaced set text)
  intro _
  apply parts.followed (parts.format path generated set)
  exact fun _ => parts.addBanner path generated set

theorem typeFile (parts : Parts P s) (type : String) :
    P (List Value) (layout s.typeFile)
      (writeIf s.typeFile (Run.writeGenerated s.typeFile type)) := by
  apply parts.writeIf
  intro set
  exact parts.writeGenerated (by simp [Settings.replacedFiles])
    (by simp [Settings.generatedFiles]) set _

theorem derive (parts : Parts P s) (resources : ResourceSet) :
    P Derived (derivation s) (Conversion.derive s resources) := by
  unfold Conversion.derive derivation
  cases s.typeSource with
  | schemaPackage => exact parts.pure _
  | infer =>
      apply parts.after (parts.note _)
      intro _
      apply parts.followed (parts.infer _)
      intro inferred
      split
      · exact parts.pure _
      · split
        · exact parts.after (parts.note _) fun _ => parts.pure _
        · exact parts.pure _

theorem schemaFile (parts : Parts P s) (type : String) :
    P (List Value) (layout s.schemaFile) (writeIf s.schemaFile do
      let record ← Run.readFile (Path.tidy (← Run.ofExcept .shape s.output.asPath))
      Run.writeGenerated s.schemaFile (schemaText type record)) := by
  apply parts.writeIf
  intro set
  apply parts.after parts.outputPath
  intro path
  apply parts.after (parts.readFile _)
  intro record
  exact parts.writeGenerated (by simp [Settings.replacedFiles])
    (by simp [Settings.generatedFiles]) set _

theorem finish (parts : Parts P s) (wanted : s.output.truthy = true) (ready : Prepared) :
    P Report (.format s.output :: layout s.schemaFile) (Conversion.finish s ready) := by
  unfold Conversion.finish
  apply parts.bind (parts.format s.output (by simp [Settings.generatedFiles]) wanted)
  intro _
  apply parts.after (parts.addBanner s.output (by simp [Settings.generatedFiles]) wanted)
  intro _
  apply parts.followed (parts.schemaFile ready.derived.type)
  intro schemaFiles
  have summary := @Composes.writeIf P [] parts.toComposes s.componentsFile _ fun set =>
    parts.replaceFile s.componentsFile (by simp [Settings.replacedFiles]) set
      (yamlText (Components.summarize ready.derived.data))
  rw [ite_self] at summary
  apply parts.after summary
  intro componentFiles
  exact parts.after (parts.note _) fun _ => parts.pure _

/-- What holds of the parts holds of all that a conversion does with its resources. -/
theorem produce (parts : Parts P s) (wanted : s.output.truthy = true) (resources : ResourceSet) :
    P Report (protocol s) (Conversion.produce s resources) := by
  unfold Conversion.produce
  apply parts.bind (parts.derive resources)
  intro derived
  apply parts.bind (parts.typeFile derived.type)
  intro typeFiles
  apply parts.after (parts.note _)
  intro _
  apply parts.bind (parts.encodeRecord derived)
  exact fun _ => parts.finish wanted _

end Parts

end TypedManifests
