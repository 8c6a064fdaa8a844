/-
Module: TypedManifests.Proofs.GeneratedFiles
Purpose: What the generated files of a run hold in the end: the banner, and then what laying the
  file out has left, with its line breaks unified. Hence a file that was left with carriage returns
  loses them.
Main exports: Text.asRead_eq_iff, Touches, TouchesOnly, Settings.LaterSpot, touches_finish,
  Conversion.LaidOut, Conversion.isMarked_of_generated, Conversion.generated_file_holds,
  Conversion.carriage_return_lost
-/
import TypedManifests.Proofs.CallProtocol
import TypedManifests.Proofs.OwnFiles

/-!
A generated file is laid out by a command, and then it gets the banner. The banner is put in front
of the text as it is read, and reading unifies the line breaks. What the run does after that touches
other places: those of the files that come later, those through which such files are replaced, and
those that the later commands write to. So each file is followed from the banner to the end of the
run by a frame relation between worlds, which goes over from step to step.
-/

namespace TypedManifests

/-!
### Line breaks
-/

namespace Text

theorem notMem_unifyBreaks (text : List Char) : '\r' ∉ unifyBreaks text := by
  fun_induction unifyBreaks text with
  | case1 rest ih => simp [ih]
  | case2 rest _ ih => simp [ih]
  | case3 c rest _ other ih => simp [ih, Ne.symm other]
  | case4 => simp

theorem unifyBreaks_of_notMem {text : List Char} (clean : '\r' ∉ text) :
    unifyBreaks text = text := by
  fun_induction unifyBreaks text with
  | case1 rest ih => simp at clean
  | case2 rest _ ih => simp at clean
  | case3 c rest _ _ ih => rw [ih fun later => clean (List.mem_cons_of_mem _ later)]
  | case4 => rfl

/-- A text is read as it is if there is no carriage return in it. -/
theorem asRead_eq_iff {text : String} : asRead text = text ↔ '\r' ∉ text.toList := by
  constructor
  · intro same
    rw [← same, asRead, String.toList_ofList]
    exact notMem_unifyBreaks _
  · intro clean
    rw [asRead, unifyBreaks_of_notMem clean, String.ofList_toList]

end Text

/-!
### Touching only some places
-/

/-- Between two worlds the text changed at the given places only, and where a command wrote a file
at the place or above it. -/
structure Touches (files : Workspace) (spots : Place → Prop) (w w' : World) : Prop where
  here : w'.files.directory = files.directory
  used : ∃ used, w.replies = used ++ w'.replies ∧
    ∀ p, ¬ spots p → (∀ reply ∈ used, ¬ reply.WritesAbove files p) →
      w'.files.tree.text? p = w.files.tree.text? p

theorem Reply.writesAbove_congr {files files' : Workspace}
    (same : files'.directory = files.directory) (reply : Reply) (p : Place) :
    reply.WritesAbove files' p ↔ reply.WritesAbove files p := by
  simp only [WritesAbove, writtenPlace_congr same]

namespace Touches

variable {files : Workspace} {spots : Place → Prop} {w between w' : World}

theorem of_same (here : w.files.directory = files.directory) (same : w'.files = w.files)
    (replies : w'.replies = w.replies) : Touches files spots w w' where
  here := by rw [same, here]
  used := ⟨[], by rw [replies, List.nil_append], fun p _ _ => by rw [same]⟩

theorem trans (first : Touches files spots w between) (second : Touches files spots between w') :
    Touches files spots w w' where
  here := second.here
  used := by
    obtain ⟨used, replies, texts⟩ := first.used
    obtain ⟨later, replies', texts'⟩ := second.used
    refine ⟨used ++ later, by rw [replies, replies', List.append_assoc], fun p apart quiet => ?_⟩
    have early := texts p apart fun reply member => quiet reply (List.mem_append_left _ member)
    have late := texts' p apart fun reply member => quiet reply (List.mem_append_right _ member)
    exact late.trans early

/-- No reply is used, and the text is another one at places of the run only. -/
theorem of_texts {left : Workspace} (here : w.files.directory = files.directory)
    (directory : left.directory = w.files.directory)
    (texts : ∀ p, ¬ spots p → left.tree.text? p = w.files.tree.text? p) :
    Touches files spots w { w with files := left } where
  here := directory.trans here
  used := ⟨[], rfl, fun p apart _ => texts p apart⟩

theorem afterCall (here : w.files.directory = files.directory) (call : Call) :
    Touches files spots w (w.afterCall call) := by
  obtain ⟨now, replies, calls, log, host⟩ := w
  cases replies with
  | nil => exact .of_same here rfl rfl
  | cons reply rest =>
      constructor
      case here => exact (reply.directory_provide now).trans here
      case used =>
        refine ⟨[reply], rfl, fun p _ quiet => reply.text?_provide ?_⟩
        rw [Reply.writesAbove_congr here]
        exact quiet reply List.mem_cons_self

end Touches

/-- If the step succeeds it touches the given places only. -/
def TouchesOnly (files : Workspace) (spots : Place → Prop) (α : Type) (_kinds : List CallKind)
    (run : Run α) : Prop :=
  ∀ w a w', w.files.directory = files.directory → run.start w = (.ok a, w') →
    Touches files spots w w'

theorem Touches.andThen {files : Workspace} {spots : Place → Prop} {w between w' : World} {α : Type}
    {kinds : List CallKind} {run : Run α} {a : α} (first : Touches files spots w between)
    (step : TouchesOnly files spots α kinds run) (done : run.start between = (.ok a, w')) :
    Touches files spots w w' :=
  first.trans (step between a w' first.here done)

/-- The place of a file, and the one that it is replaced through. -/
def Covers (files : Workspace) (spots : Place → Prop) (path : Value) : Prop :=
  ∀ given, path = .text given → spots (files.place given) ∧ spots (files.pendingPlace given)

section Steps

variable {files : Workspace} {spots : Place → Prop} {s : Settings}

theorem touches_composes (files : Workspace) (spots : Place → Prop) :
    Composes (TouchesOnly files spots) where
  pure := by
    intro α a w b w' here done
    cases done
    exact .of_same here rfl rfl
  bind := by
    intro α β _ _ x f left right w b w' here done
    obtain ⟨a, between, first, second⟩ := Run.bind_eq_ok.1 done
    exact (left w a between here first).andThen (right a) second

theorem touches_note (line : LogLine) : TouchesOnly files spots Unit [] (Run.note line) := by
  intro w a w' here done
  cases done
  exact .of_same here rfl rfl

theorem touches_ofExcept {α ε : Type} (wrap : ε → RunError) (result : Except ε α) :
    TouchesOnly files spots α [] (Run.ofExcept wrap result) := by
  intro w a w' here done
  cases result with
  | error e => cases done
  | ok b =>
      cases done
      exact .of_same here rfl rfl

theorem touches_readFile (path : String) :
    TouchesOnly files spots String [] (Run.readFile path) := by
  intro w a w' here done
  rw [Run.start_readFile] at done
  cases read : w.files.read path with
  | error e => simp [read] at done
  | ok text =>
      rw [read] at done
      cases done
      exact .of_same here rfl rfl

theorem touches_format (path : Value) :
    TouchesOnly files spots Unit [.format path] (Run.format path) := by
  intro w a w' here done
  rcases Run.format_cases path w with ⟨e, _, run⟩ | ⟨file, _, ⟨_, run⟩ | ⟨e, run⟩⟩
  · cases run.symm.trans done
  · cases run.symm.trans done
    exact .afterCall here _
  · cases run.symm.trans done

/-- What is done about a failing encoder ends the run. -/
theorem touches_encodeRecord (derived : Conversion.Derived) :
    TouchesOnly files spots Unit [.encode] (Conversion.encodeRecord s derived) := by
  intro w a w' here done
  rcases Conversion.encodeRecord_cases s derived w with
    ⟨e, _, run⟩ | ⟨output, _, ⟨_, run⟩ | ⟨fault, _, run⟩ | ⟨fault, run⟩ | ⟨e, left, log, _, run⟩⟩
  · cases run.symm.trans done
  · cases run.symm.trans done
    exact .afterCall here _
  · cases run.symm.trans done
  · cases run.symm.trans done
  · cases run.symm.trans done

theorem touches_replaceFile {path : Value} (covers : Covers files spots path) (text : String) :
    TouchesOnly files spots Unit [] (Run.replaceFile path text) := by
  intro w a w' here done
  obtain ⟨given, left, isText, rfl, directory, texts⟩ := Run.replaceFile_done done
  obtain ⟨ofFile, ofPending⟩ := covers given isText
  rw [← place_congr here] at ofFile
  rw [← pendingPlace_congr here] at ofPending
  apply Touches.of_texts here directory
  intro p apart
  have notFile : p ≠ w.files.place given := fun same => apart (same ▸ ofFile)
  have notPending : p ≠ w.files.pendingPlace given := fun same => apart (same ▸ ofPending)
  rw [texts, if_neg notFile, if_neg notPending]

theorem touches_addBanner {path : Value}
    (covers : ∀ given, path = .text given → spots (files.place given)) (banner : String) :
    TouchesOnly files spots Unit [] (Run.addBanner path banner) := by
  intro w a w' here done
  rcases Run.addBanner_whole w path banner with
    ⟨e, run⟩ | ⟨given, old, left, isText, _, run, directory, texts⟩
  · cases run.symm.trans done
  · cases run.symm.trans done
    have ofFile := covers given isText
    rw [← place_congr here] at ofFile
    apply Touches.of_texts here directory
    intro p apart
    have notFile : p ≠ w.files.place given := fun same => apart (same ▸ ofFile)
    rw [texts, if_neg notFile]

theorem touches_writeGenerated {path : Value} (covers : Covers files spots path) (text : String) :
    TouchesOnly files spots Unit [.format path] (Run.writeGenerated path text) := by
  unfold Run.writeGenerated
  apply (touches_composes files spots).after (touches_replaceFile covers text)
  intro _
  apply (touches_composes files spots).followed (touches_format path)
  intro _
  exact touches_addBanner (fun given isText => (covers given isText).1) Run.banner

end Steps

/-!
### What comes after a file
-/

namespace Settings

/-- The place of a file that a run writes after another one, or the one through which it replaces
it. -/
def LaterSpot (s : Settings) (files : Workspace) (path : Value) (p : Place) : Prop :=
  ∃ other, [path, .text other].Sublist s.namedFiles ∧ other ≠ "" ∧
    (p = files.place other ∨ .text other ∈ s.replacedFiles ∧ p = files.pendingPlace other)

/-- A later file is replaced through the place of this one. -/
def PassesThrough (s : Settings) (files : Workspace) (file : String) : Prop :=
  ∃ other, [.text file, .text other].Sublist s.namedFiles ∧ other ≠ "" ∧
    .text other ∈ s.replacedFiles ∧ files.place file = files.pendingPlace other

variable {s : Settings} {files : Workspace} {path other : Value}

theorem covers_laterSpot (later : [path, other].Sublist s.namedFiles)
    (replaced : other ∈ s.replacedFiles) (set : other.truthy = true) :
    Covers files (s.LaterSpot files path) other := by
  rintro given rfl
  have nonempty := ne_empty_of_truthy set
  constructor
  · exact ⟨given, later, nonempty, Or.inl rfl⟩
  · exact ⟨given, later, nonempty, Or.inr ⟨replaced, rfl⟩⟩

/-- If the files of a run are at different places, the one of a file is that of no later file. -/
theorem passesThrough_of_laterSpot {file : String}
    (different : ((s.writtenFiles.filterMap Value.text?).map files.place).Nodup)
    (nonempty : file ≠ "") (spot : s.LaterSpot files (.text file) (files.place file)) :
    s.PassesThrough files file := by
  obtain ⟨other, later, set, same | ⟨replaced, same⟩⟩ := spot
  · have both : [Value.text file, .text other].filter Value.truthy =
        [.text file, .text other] := by simp [Value.truthy, nonempty, set]
    have written := later.filter Value.truthy
    rw [both] at written
    have places := (written.filterMap Value.text?).map files.place
    have pair : [files.place file, files.place other].Nodup := different.sublist places
    simp [same] at pair
  · exact ⟨other, later, set, replaced, same⟩

end Settings

namespace Conversion

open Run

section Rest

variable {s : Settings} {files : Workspace} {spots : Place → Prop}

theorem touches_schemaFile (ofSchema : s.schemaFile.truthy = true → Covers files spots s.schemaFile)
    (type : String) :
    TouchesOnly files spots (List Value) (layout s.schemaFile) (writeIf s.schemaFile do
      let record ← readFile (Path.tidy (← ofExcept .shape s.output.asPath))
      writeGenerated s.schemaFile (schemaText type record)) := by
  have composes := touches_composes files spots
  apply composes.writeIf
  intro set
  apply composes.after (touches_ofExcept _ _)
  intro path
  apply composes.after (touches_readFile _)
  intro record
  exact touches_writeGenerated (ofSchema set) _

theorem touches_componentsFile
    (ofSummary : s.componentsFile.truthy = true → Covers files spots s.componentsFile)
    (text : String) :
    TouchesOnly files spots (List Value) []
      (writeIf s.componentsFile (replaceFile s.componentsFile text)) := by
  have summary := @Composes.writeIf _ [] (touches_composes files spots) s.componentsFile _
    fun set => touches_replaceFile (ofSummary set) text
  rwa [ite_self] at summary

theorem touches_finish
    (ofOutput : ∀ given, s.output = .text given → spots (files.place given))
    (ofSchema : s.schemaFile.truthy = true → Covers files spots s.schemaFile)
    (ofSummary : s.componentsFile.truthy = true → Covers files spots s.componentsFile)
    (ready : Prepared) :
    TouchesOnly files spots Report (.format s.output :: layout s.schemaFile) (finish s ready) := by
  have composes := touches_composes files spots
  unfold finish
  apply composes.bind (touches_format s.output)
  intro _
  apply composes.after (touches_addBanner ofOutput banner)
  intro _
  apply composes.followed (touches_schemaFile ofSchema ready.derived.type)
  intro schemaFiles
  apply composes.after (touches_componentsFile ofSummary _)
  intro componentFiles
  exact composes.after (touches_note _) fun _ => composes.pure _

end Rest

/-!
### The generated files of a run
-/

/-- The run comes to the point where a generated file is laid out and has no banner yet. -/
inductive LaidOut (s : Settings) (inputs : List String) (before : World) :
    Value → World → Prop where
  | type {derived : Derived} {w₁ w₂ w : World} (set : s.typeFile.truthy = true)
      (reached : (untilTypeFile s inputs).start before = (.ok derived, w₁))
      (replaced : (replaceFile s.typeFile derived.type).start w₁ = (.ok (), w₂))
      (laidOut : (format s.typeFile).start w₂ = (.ok (), w)) : LaidOut s inputs before s.typeFile w
  | output {ready : Prepared} {w₁ w₂ w : World}
      (reached : (prepare s inputs).start before = (.ok ready, w₁))
      (encoded : (encodeRecord s ready.derived).start w₁ = (.ok (), w₂))
      (laidOut : (format s.output).start w₂ = (.ok (), w)) : LaidOut s inputs before s.output w
  | schema {text : String} {w₁ w₂ w : World} (set : s.schemaFile.truthy = true)
      (reached : (untilSchemaFile s inputs).start before = (.ok text, w₁))
      (replaced : (replaceFile s.schemaFile text).start w₁ = (.ok (), w₂))
      (laidOut : (format s.schemaFile).start w₂ = (.ok (), w)) :
      LaidOut s inputs before s.schemaFile w

/-- A file was laid out, it got its banner, and then the run came to its end by what touches later
files only. -/
def IsMarked (s : Settings) (inputs : List String) (before after : World) (path : Value) : Prop :=
  ∃ w marked, LaidOut s inputs before path w ∧
    (addBanner path banner).start w = (.ok (), marked) ∧
    ∀ files, marked.files.directory = files.directory →
      Touches files (s.LaterSpot files path) marked after

section Marking

variable {s : Settings} {inputs : List String} {before w after : World} {report : Report}

theorem start_writeIf {path : Value} {write : Run Unit} {written : List Value}
    (set : path.truthy = true) (run : (writeIf path write).start w = (.ok written, after)) :
    write.start w = (.ok (), after) := by
  unfold writeIf at run
  rw [if_pos set] at run
  obtain ⟨_, w₁, done, returned⟩ := bind_eq_ok.1 run
  cases returned
  exact done

theorem writeGenerated_eq_ok {path : Value} {text : String}
    (run : (writeGenerated path text).start w = (.ok (), after)) :
    ∃ w₁ w₂, (replaceFile path text).start w = (.ok (), w₁) ∧
      (format path).start w₁ = (.ok (), w₂) ∧
      (addBanner path banner).start w₂ = (.ok (), after) := by
  unfold writeGenerated at run
  obtain ⟨_, w₁, replaced, run⟩ := bind_eq_ok.1 run
  obtain ⟨_, w₂, laidOut, marked⟩ := bind_eq_ok.1 run
  exact ⟨w₁, w₂, replaced, laidOut, marked⟩

theorem returned_stages (returned : (convert s inputs).start before = (.ok report, after)) :
    ∃ ready w₁ w₂, (prepare s inputs).start before = (.ok ready, w₁) ∧
      (encodeRecord s ready.derived).start w₁ = (.ok (), w₂) ∧
      (finish s ready).start w₂ = (.ok report, after) := by
  rw [convert_eq_stages] at returned
  obtain ⟨ready, w₁, prepared, returned⟩ := bind_eq_ok.1 returned
  obtain ⟨_, w₂, encoded, finished⟩ := bind_eq_ok.1 returned
  exact ⟨ready, w₁, w₂, prepared, encoded, finished⟩

theorem isMarked_type (returned : (convert s inputs).start before = (.ok report, after))
    (set : s.typeFile.truthy = true) : IsMarked s inputs before after s.typeFile := by
  obtain ⟨ready, w₁, w₂, prepared, encoded, finished⟩ := returned_stages returned
  -- the file of the type is written while the record is prepared
  rw [prepare_eq_halves] at prepared
  obtain ⟨resources, v₁, loaded, prepared⟩ := bind_eq_ok.1 prepared
  obtain ⟨derived, v₂, derives, prepared⟩ := bind_eq_ok.1 prepared
  obtain ⟨typeFiles, v₃, written, prepared⟩ := bind_eq_ok.1 prepared
  obtain ⟨_, v₄, noted, prepared⟩ := bind_eq_ok.1 prepared
  cases prepared
  obtain ⟨v₅, v₆, replaced, laidOut, marked⟩ := writeGenerated_eq_ok (start_writeIf set written)
  have reached : (untilTypeFile s inputs).start before = (.ok derived, v₂) :=
    bind_eq_ok.2 ⟨resources, v₁, loaded, derives⟩
  refine ⟨v₆, v₃, .type set reached replaced laidOut, marked, fun files here => ?_⟩
  have ofOutput (given : String) (isText : s.output = .text given) :
      s.LaterSpot files s.typeFile (files.place given) := by
    have wanted := wanted_of_loadInputs loaded
    rw [isText] at wanted
    refine ⟨given, ?_, ne_empty_of_truthy wanted, Or.inl rfl⟩
    rw [← isText]
    simp [Settings.namedFiles]
  have ofSchema := @Settings.covers_laterSpot s files s.typeFile s.schemaFile
    (by simp [Settings.namedFiles]) (by simp [Settings.replacedFiles])
  have ofSummary := @Settings.covers_laterSpot s files s.typeFile s.componentsFile
    (by simp [Settings.namedFiles]) (by simp [Settings.replacedFiles])
  have start : Touches files (s.LaterSpot files s.typeFile) v₃ v₃ := .of_same here rfl rfl
  have toEncoder := start.andThen (touches_note _) noted
  have toOutput := toEncoder.andThen (touches_encodeRecord derived) encoded
  exact toOutput.andThen (touches_finish ofOutput ofSchema ofSummary _) finished

theorem isMarked_output (returned : (convert s inputs).start before = (.ok report, after)) :
    IsMarked s inputs before after s.output := by
  obtain ⟨ready, w₁, w₂, prepared, encoded, finished⟩ := returned_stages returned
  obtain ⟨w₃, w₄, w₅, w₆, _, _, laidOut, marked, schema, summary, noted, _⟩ :=
    finish_eq_ok finished
  refine ⟨w₃, w₄, .output prepared encoded laidOut, marked, fun files here => ?_⟩
  have ofSchema := @Settings.covers_laterSpot s files s.output s.schemaFile
    (by simp [Settings.namedFiles]) (by simp [Settings.replacedFiles])
  have ofSummary := @Settings.covers_laterSpot s files s.output s.componentsFile
    (by simp [Settings.namedFiles]) (by simp [Settings.replacedFiles])
  have start : Touches files (s.LaterSpot files s.output) w₄ w₄ := .of_same here rfl rfl
  have toSummary := start.andThen (touches_schemaFile ofSchema _) schema
  exact (toSummary.andThen (touches_componentsFile ofSummary _) summary).andThen
    (touches_note _) noted

theorem isMarked_schema (returned : (convert s inputs).start before = (.ok report, after))
    (set : s.schemaFile.truthy = true) : IsMarked s inputs before after s.schemaFile := by
  obtain ⟨ready, w₁, w₂, prepared, encoded, finished⟩ := returned_stages returned
  obtain ⟨w₃, w₄, w₅, w₆, _, _, outputLaidOut, outputMarked, schema, summary, noted, _⟩ :=
    finish_eq_ok finished
  obtain ⟨path, v₁, isPath, schema⟩ := bind_eq_ok.1 (start_writeIf set schema)
  obtain ⟨record, v₂, read, schema⟩ := bind_eq_ok.1 schema
  obtain ⟨v₃, v₄, replaced, laidOut, marked⟩ := writeGenerated_eq_ok schema
  -- the way to the schema file is put together again from the steps of the run
  have inLastForm : (untilOutput s inputs).start before = (.ok ready, w₄) :=
    bind_eq_ok.2 ⟨ready, w₁, prepared, bind_eq_ok.2 ⟨(), w₂, encoded,
      bind_eq_ok.2 ⟨(), w₃, outputLaidOut, bind_eq_ok.2 ⟨(), w₄, outputMarked, rfl⟩⟩⟩⟩
  have reached : (untilSchemaFile s inputs).start before =
      (.ok (schemaText ready.derived.type record), v₂) :=
    bind_eq_ok.2 ⟨ready, w₄, inLastForm, bind_eq_ok.2 ⟨path, v₁, isPath,
      bind_eq_ok.2 ⟨record, v₂, read, rfl⟩⟩⟩
  refine ⟨v₄, w₅, .schema set reached replaced laidOut, marked, fun files here => ?_⟩
  have ofSummary := @Settings.covers_laterSpot s files s.schemaFile s.componentsFile
    (by simp [Settings.namedFiles]) (by simp [Settings.replacedFiles])
  have start : Touches files (s.LaterSpot files s.schemaFile) w₅ w₅ := .of_same here rfl rfl
  exact (start.andThen (touches_componentsFile ofSummary _) summary).andThen
    (touches_note _) noted

/-- Every generated file that the settings name gets its banner. -/
theorem isMarked_of_generated {path : Value}
    (returned : (convert s inputs).start before = (.ok report, after))
    (generated : path ∈ s.generatedFiles) (set : path.truthy = true) :
    IsMarked s inputs before after path := by
  simp only [Settings.generatedFiles, List.mem_cons, List.not_mem_nil, or_false] at generated
  rcases generated with rfl | rfl | rfl
  · exact isMarked_type returned set
  · exact isMarked_output returned
  · exact isMarked_schema returned set

theorem written_of_convert (returned : (convert s inputs).start before = (.ok report, after)) :
    report.written = s.writtenFiles := by
  rw [convert_eq_halves] at returned
  obtain ⟨resources, w, loaded, produced⟩ := bind_eq_ok.1 returned
  exact written_of_produce (wanted_of_loadInputs loaded) produced

/-- After a run that returns, a generated file holds the banner and then what laying it out has
left, with its line breaks unified, if no later command writes there and no later file is replaced
through its place. So it holds the very text that was left if there is no carriage return in that.
-/
theorem generated_file_holds {path : Value}
    (returned : (convert s inputs).start before = (.ok report, after))
    (different : ((report.written.filterMap Value.text?).map after.files.place).Nodup)
    (generated : path ∈ s.generatedFiles) (set : path.truthy = true) :
    ∃ (file : String) (w : World) (old : String) (later : List Reply),
      path = .text file ∧ LaidOut s inputs before path w ∧
        w.files.tree.text? (after.files.place file) = some old ∧
        w.replies = later ++ after.replies ∧
        ((∀ reply ∈ later, ¬ reply.WritesAbove after.files (after.files.place file)) →
          ¬ s.PassesThrough after.files file →
            after.files.tree.text? (after.files.place file) = some (banner ++ Text.asRead old) ∧
            (after.files.tree.text? (after.files.place file) = some (banner ++ old) ↔
              '\r' ∉ old.toList)) := by
  obtain ⟨w, marked, laidOut, adds, rest⟩ := isMarked_of_generated returned generated set
  rcases addBanner_whole w path banner with
    ⟨e, run⟩ | ⟨file, old, left, rfl, there, run, directory, texts⟩
  · cases run.symm.trans adds
  · cases run.symm.trans adds
    -- the working directory stays, so places can be told by the files that are there in the end
    have here : after.files.directory = left.directory := (rest left rfl).here
    have spot : after.files.place file = w.files.place file :=
      place_congr (here.trans directory) file
    obtain ⟨later, replies, kept⟩ := (rest after.files here.symm).used
    rw [← spot] at there texts
    refine ⟨file, w, old, later, rfl, laidOut, there, replies, fun quiet apart => ?_⟩
    have notLater : ¬ s.LaterSpot after.files (.text file) (after.files.place file) := by
      rw [written_of_convert returned] at different
      exact fun later =>
        apart (Settings.passesThrough_of_laterSpot different (ne_empty_of_truthy set) later)
    have holds : after.files.tree.text? (after.files.place file) =
        some (banner ++ Text.asRead old) := by
      rw [kept _ notLater quiet, texts, if_pos rfl]
    refine ⟨holds, ?_⟩
    rw [holds, Option.some.injEq, String.append_right_inj, Text.asRead_eq_iff]

end Marking

/-! A run whose output is left with this or that line break when it is laid out. -/

/-- Only the output is written. -/
def outputOnly : Settings :=
  { Settings.default with output := .text "out.dhall", typeSource := .schemaPackage }

/-- The second command leaves this text in the output. -/
def leaving (text : String) : World :=
  { failingEncoder [] with
    replies := [.finished [("out.dhall", "\x7b=\x7d")] 0 "" "",
      .finished [("out.dhall", text)] 0 "" ""] }

/-- What a conversion does until the output is laid out. -/
def untilLaidOut (s : Settings) (inputs : List String) : Run Unit := do
  let ready ← prepare s inputs
  encodeRecord s ready.derived
  format s.output

/-- If there is no other generated file, it is the output that is laid out. -/
theorem laidOut_iff {s : Settings} {inputs : List String} {before w : World}
    (noType : s.typeFile.truthy = false) (noSchema : s.schemaFile.truthy = false) {path : Value} :
    LaidOut s inputs before path w ↔
      path = s.output ∧ (untilLaidOut s inputs).start before = (.ok (), w) := by
  constructor
  · intro laidOut
    cases laidOut with
    | type set => cases noType.symm.trans set
    | output prepared encoded laidOut =>
        exact ⟨rfl, bind_eq_ok.2 ⟨_, _, prepared, bind_eq_ok.2 ⟨_, _, encoded, laidOut⟩⟩⟩
    | schema set => cases noSchema.symm.trans set
  · rintro ⟨rfl, reached⟩
    obtain ⟨ready, w₁, prepared, reached⟩ := bind_eq_ok.1 reached
    obtain ⟨_, w₂, encoded, laidOut⟩ := bind_eq_ok.1 reached
    exact .output prepared encoded laidOut

/-- The output is left with one text by the last command, and it holds another one after the banner
in the end. -/
def turnsInto (left held : String) : Bool :=
  match (untilLaidOut outputOnly ["m"]).start (leaving left),
    (convert outputOnly ["m"]).start (leaving left) with
  | (.ok _, w), (.ok report, after) =>
      w.replies.isEmpty && w.files.tree.text? (after.files.place "out.dhall") = some left &&
        after.files.tree.text? (after.files.place "out.dhall") = some (banner ++ held) &&
        report.written.filterMap Value.text? = ["out.dhall"]
  | _, _ => false

theorem run_of_turnsInto {left held : String} (turns : turnsInto left held = true) :
    ∃ w report after,
      (untilLaidOut outputOnly ["m"]).start (leaving left) = (.ok (), w) ∧
        (convert outputOnly ["m"]).start (leaving left) = (.ok report, after) ∧
        w.replies = [] ∧ w.files.tree.text? (after.files.place "out.dhall") = some left ∧
        after.files.tree.text? (after.files.place "out.dhall") = some (banner ++ held) ∧
        ((report.written.filterMap Value.text?).map after.files.place).Nodup := by
  unfold turnsInto at turns
  split at turns
  · next w report after reached returned =>
    simp only [Bool.and_eq_true, List.isEmpty_iff, decide_eq_true_eq] at turns
    obtain ⟨⟨⟨none, was⟩, is⟩, written⟩ := turns
    exact ⟨w, report, after, reached, returned, none, was, is, by simp [written]⟩
  · cases turns

/-- With line feeds only, the output holds what was left. -/
theorem generated_file_holds_line_feed :
    ∃ report after,
      (convert outputOnly ["m"]).start (leaving "\x7b=\x7d\n") = (.ok report, after) ∧
        ((report.written.filterMap Value.text?).map after.files.place).Nodup ∧
        outputOnly.output ∈ outputOnly.generatedFiles ∧ outputOnly.output.truthy = true ∧
        after.files.tree.text? (after.files.place "out.dhall") =
          some (banner ++ "\x7b=\x7d\n") := by
  have turns : turnsInto "\x7b=\x7d\n" "\x7b=\x7d\n" = true := by decide +kernel
  obtain ⟨w, report, after, reached, returned, none, was, -, different⟩ := run_of_turnsInto turns
  have generated : outputOnly.output ∈ outputOnly.generatedFiles := by
    simp [Settings.generatedFiles]
  refine ⟨report, after, returned, different, generated, rfl, ?_⟩
  obtain ⟨file, w', old, later, isText, laidOut, there, replies, holds⟩ :=
    generated_file_holds returned different generated rfl
  obtain rfl : "out.dhall" = file := by simpa [outputOnly] using isText
  obtain ⟨-, reached'⟩ := (laidOut_iff rfl rfl).1 laidOut
  cases reached.symm.trans reached'
  cases was.symm.trans there
  obtain ⟨rfl, -⟩ : later = [] ∧ after.replies = [] := by simpa [none] using replies
  have apart : ¬ outputOnly.PassesThrough after.files "out.dhall" := by
    rintro ⟨other, -, -, replaced, -⟩
    simp [Settings.replacedFiles, outputOnly, Settings.default] at replaced
  exact (holds (by simp) apart).2.2 (by decide)

/-- The carriage returns in the text that was left are lost. -/
theorem carriage_return_lost :
    ∃ (s : Settings) (inputs : List String) (before w after : World) (report : Report)
      (file old : String),
      (convert s inputs).start before = (.ok report, after) ∧
        ((report.written.filterMap Value.text?).map after.files.place).Nodup ∧
        s.output = .text file ∧ LaidOut s inputs before s.output w ∧ w.replies = [] ∧
        w.files.tree.text? (after.files.place file) = some old ∧
        after.files.tree.text? (after.files.place file) ≠ some (banner ++ old) := by
  have turns : turnsInto "\x7b=\x7d\r\n" "\x7b=\x7d\n" = true := by decide +kernel
  obtain ⟨w, report, after, reached, returned, none, was, is, different⟩ := run_of_turnsInto turns
  refine ⟨outputOnly, ["m"], _, w, after, report, "out.dhall", _, returned, different, rfl,
    (laidOut_iff rfl rfl).2 ⟨rfl, reached⟩, none, was, ?_⟩
  rw [is]
  decide

end Conversion

end TypedManifests
