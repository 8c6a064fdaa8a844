/-
Module: TypedManifests.Proofs.FailureCauses
Purpose: Why a conversion fails: what is not a fault of the input, of a file or of a command comes
  of an ignore pattern, of a file that the settings name, of the time limit, of a zero character, or
  of a value that a manifest spells and there is none of.
Main exports: UnexpectedCause, Path.Glob.isIgnored_eq_error, LoadCause,
  Loading.addInputs_cause, Host.starts_eq_false_iff, Fails, fails_parts, Conversion.failure_cause,
  Conversion.failure_of_empty_pattern
-/
import TypedManifests.Proofs.EncoderFailure
import TypedManifests.Proofs.RunParts

/-!
A run is expected to fail for a fault of its input, of a file or of a command. It can fail otherwise
too, though its settings were checked. The check does not look at the ignore patterns, of which one
may have no segment; nor at the files that the settings name, which may be no texts, or name
nothing, or hold a character that ends texts; and of the time limit it asks only that it be not zero
and not negative, not that it can be waited for. And a YAML text may be well formed and yet spell a
value that there is none of. These are all the causes there are, and but for a zero character in a
type each of them is there before the run. The failures are followed through the loading and through
the making of the files; no other step can fail in a way that is not expected.
-/

namespace TypedManifests

/-!
### Patterns
-/

namespace Path.Glob

/-- A pattern is refused only if it has no segment. -/
theorem isIgnored_eq_error {patterns : List String} {path : String} {e : PatternError}
    (refused : isIgnored patterns path = .error e) : ∃ pattern ∈ patterns, parts pattern = [] := by
  induction patterns with
  | nil => cases refused
  | cons pattern rest ih =>
      unfold isIgnored at refused
      cases tried : ignores pattern path with
      | error fault =>
          refine ⟨pattern, List.mem_cons_self, ?_⟩
          unfold ignores pathMatches at tried
          cases segments : parts pattern with
          | nil => rfl
          | cons first others =>
              rw [segments] at tried
              split at tried
              · cases tried
              · dsimp only [List.isEmpty_cons] at tried
                rw [if_neg Bool.false_ne_true] at tried
                split at tried <;> cases tried
      | ok matched =>
          rw [tried] at refused
          cases matched with
          | true => cases refused
          | false =>
              obtain ⟨empty, listed, segments⟩ := ih refused
              exact ⟨empty, List.mem_cons_of_mem _ listed, segments⟩

end Path.Glob

/-!
### The texts that are loaded
-/

namespace FileTree

theorem mem_filesOf {entries : List (String × FileTree)} {name : String} {tree : FileTree}
    {place : Place} {text : String} (entry : (name, tree) ∈ entries)
    (file : (place, text) ∈ tree.files) : (name :: place, text) ∈ filesOf entries := by
  induction entries with
  | nil => cases entry
  | cons first rest ih =>
      obtain ⟨other, below⟩ := first
      rw [filesOf]
      rcases List.mem_cons.1 entry with same | later
      · cases same
        exact List.mem_append_left _ (List.mem_map.2 ⟨(place, text), file, rfl⟩)
      · exact List.mem_append_right _ (ih later)

theorem mem_files_of_find? {tree below : FileTree} {place rest : Place} {text : String}
    (found : tree.find? place = some below) (file : (rest, text) ∈ below.files) :
    (place ++ rest, text) ∈ tree.files := by
  induction place generalizing tree with
  | nil =>
      cases found
      exact file
  | cons name place ih =>
      cases tree with
      | file text => simp [find?] at found
      | directory entries =>
          rw [find?] at found
          split at found
          · next inside entry =>
            obtain ⟨_, _, split, _⟩ := List.lookup_eq_some_iff.1 entry
            have listed : (name, inside) ∈ entries := by simp [split]
            exact mem_filesOf listed (ih found)
          · cases found

mutual

/-- The manifests of a directory are files below it. -/
theorem file_of_manifestsBelow {ignored : String → Bool} {found : Found} :
    ∀ (path : String) (tree : FileTree), found ∈ manifestsBelow ignored path tree →
      ∃ place, (place, found.2) ∈ tree.files
  | _, .file _, listed => nomatch listed
  | path, .directory entries, listed => by
      rw [manifestsBelow] at listed
      rcases List.mem_append.1 listed with own | deeper
      · obtain ⟨⟨name, _⟩, sorted, rfl⟩ := List.mem_map.1 own
        obtain ⟨⟨_, tree⟩, entry, kept⟩ := List.mem_filterMap.1 (List.mem_mergeSort.1 sorted)
        cases tree with
        | directory below => cases kept
        | file text =>
            simp only at kept
            split at kept
            · cases kept
              exact ⟨[name], mem_filesOf entry (by simp [files])⟩
            · cases kept
      · obtain ⟨group, sorted, member⟩ := List.mem_flatMap.1 deeper
        exact file_of_manifestsOfEach path entries group (List.mem_mergeSort.1 sorted) member

theorem file_of_manifestsOfEach {ignored : String → Bool} {found : Found} :
    ∀ (path : String) (entries : List (String × FileTree)) (group : String × List Found),
      group ∈ manifestsOfEach ignored path entries → found ∈ group.2 →
        ∃ place, (place, found.2) ∈ filesOf entries
  | _, [], _, listed, _ => nomatch listed
  | path, (name, tree) :: rest, group, listed, member => by
      have others (later : group ∈ manifestsOfEach ignored path rest) :
          ∃ place, (place, found.2) ∈ filesOf ((name, tree) :: rest) := by
        obtain ⟨place, file⟩ := file_of_manifestsOfEach path rest group later member
        rw [filesOf]
        exact ⟨place, List.mem_append_right _ file⟩
      rw [manifestsOfEach] at listed
      split at listed
      · exact others listed
      · rcases List.mem_cons.1 listed with rfl | later
        · obtain ⟨place, file⟩ := file_of_manifestsBelow _ tree member
          exact ⟨name :: place, mem_filesOf List.mem_cons_self file⟩
        · exact others later

end

theorem file_of_manifests {ignored : String → Bool} {path : String} {tree : FileTree}
    {found : Found} (listed : found ∈ tree.manifests ignored path) :
    ∃ place, (place, found.2) ∈ tree.files := by
  unfold manifests at listed
  split at listed
  · cases listed
  · cases tree with
    | directory entries => exact file_of_manifestsBelow path _ listed
    | file text =>
        simp only at listed
        split at listed
        · cases List.mem_singleton.1 listed
          exact ⟨[], by simp [files]⟩
        · cases listed

end FileTree

/-!
### Failures of the loading
-/

/-- A text has a value that there is none of, when it is read as YAML, whatever version the text
before it was written in. -/
def SpellsBadValue (text : String) (fault : Yaml.ValueFault) : Prop :=
  ∃ version, Yaml.readAll version (Text.asRead (Text.dropByteOrderMark text)) =
    .error (.badValue fault)

/-- What a failure of the loading tells of the patterns and the files. -/
inductive LoadCause (patterns : List String) (files : Workspace) : LoadError → Prop where
  | resource (e : ResourceError) : LoadCause patterns files (.resource e)
  | pattern {pattern : String} (e : Path.Glob.PatternError) (listed : pattern ∈ patterns)
      (empty : Path.parts pattern = []) : LoadCause patterns files (.pattern e)
  | badValue {place : Place} {text : String} {fault : Yaml.ValueFault}
      (file : (place, text) ∈ files.tree.files) (spelled : SpellsBadValue text fault) :
      LoadCause patterns files (.badValue fault)

namespace Loading

variable {patterns : List String} {files : Workspace} {schemaUrl : Value} {l l' : Loading}
  {e : LoadError}

theorem addDocument_cause {file : String} {document : Document}
    (failed : addDocument file schemaUrl l document = (l', some e)) :
    LoadCause patterns files e := by
  unfold addDocument at failed
  dsimp only at failed
  split at failed
  · cases failed
  · cases failed
    exact .resource _

theorem addDocuments_cause {file : String} {documents : List Document}
    (failed : addDocuments file schemaUrl l documents = (l', some e)) :
    LoadCause patterns files e := by
  induction documents generalizing l with
  | nil => cases failed
  | cons document rest ih =>
      rw [addDocuments] at failed
      split at failed
      · exact ih failed
      · exact addDocument_cause failed

theorem addFile_cause {found : Found} {place : Place}
    (file : (place, found.2) ∈ files.tree.files)
    (failed : addFile schemaUrl l found = (l', some e)) : LoadCause patterns files e := by
  unfold addFile at failed
  dsimp only at failed
  split at failed
  · cases failed
    exact .resource _
  · next fault read =>
    cases failed
    exact .badValue file ⟨_, read⟩
  · exact addDocuments_cause failed

theorem addFiles_cause {found : List Found}
    (known : ∀ f ∈ found, ∃ place, (place, f.2) ∈ files.tree.files)
    (failed : addFiles schemaUrl l found = (l', some e)) : LoadCause patterns files e := by
  induction found generalizing l with
  | nil => cases failed
  | cons first rest ih =>
      rw [addFiles] at failed
      split at failed
      · exact ih (fun f member => known f (List.mem_cons_of_mem _ member)) failed
      · obtain ⟨place, file⟩ := known first List.mem_cons_self
        exact addFile_cause file failed

theorem addInput_cause {path : String}
    (failed : addInput files patterns schemaUrl l path = (l', some e)) :
    LoadCause patterns files e := by
  unfold addInput at failed
  split at failed
  · cases failed
    exact .resource _
  · next tree found =>
    split at failed
    · next refused =>
      cases failed
      obtain ⟨pattern, listed, empty⟩ := Path.Glob.isIgnored_eq_error refused
      exact .pattern _ listed empty
    · refine addFiles_cause (fun f member => ?_) failed
      obtain ⟨rest, file⟩ := FileTree.file_of_manifests member
      unfold Workspace.find? at found
      split at found
      · exact ⟨_, FileTree.mem_files_of_find? found file⟩
      · cases found

theorem addInputs_cause {paths : List String}
    (failed : addInputs files patterns schemaUrl l paths = (l', some e)) :
    LoadCause patterns files e := by
  induction paths generalizing l with
  | nil => cases failed
  | cons path rest ih =>
      rw [addInputs] at failed
      split at failed
      · exact ih failed
      · exact addInput_cause failed

end Loading

theorem ResourceSet.load_cause {patterns : List String} {files : Workspace} {schemaUrl : Value}
    {inputs : List String} {e : LoadError}
    (failed : (ResourceSet.load files patterns schemaUrl inputs).2 = .error e) :
    LoadCause patterns files e := by
  unfold ResourceSet.load at failed
  dsimp only at failed
  split at failed
  · cases failed
  · next loading =>
    cases failed
    exact Loading.addInputs_cause loading

/-!
### Zero characters
-/

/-- Slashes and points do not end texts. -/
theorem holdsZero_of_chars {path derived : String}
    (chars : ∀ c ∈ derived.toList, c = '/' ∨ c = '.' ∨ c ∈ path.toList)
    (held : holdsZero derived = true) : holdsZero path = true := by
  simp only [holdsZero, List.contains_iff_mem] at held ⊢
  rcases chars _ held with slash | point | within
  · cases slash
  · cases point
  · exact within

theorem holdsZero_of_tidy {path : String} (held : holdsZero (Path.tidy path) = true) :
    holdsZero path = true :=
  holdsZero_of_chars (fun _ => Path.mem_tidy) held

theorem holdsZero_of_parentOf {path : String} (held : holdsZero (Path.parentOf path) = true) :
    holdsZero path = true :=
  holdsZero_of_chars (fun _ => Path.mem_parentOf) held

/-- A command line is not passed on if a text of it would end early. -/
theorem Host.starts_eq_false_iff {host : Host} {command : List String} :
    host.starts command = false ↔
      host.zeroEndsTexts = true ∧ ∃ text ∈ command, holdsZero text = true := by
  simp [Host.starts]

theorem exists_holdsZero_format {file : String}
    (held : ∃ text ∈ Run.formatCommand file, holdsZero text = true) : holdsZero file = true := by
  have dhall : holdsZero "dhall" = false := by decide
  have format : holdsZero "format" = false := by decide
  have inplace : holdsZero "--inplace" = false := by decide
  simpa [Run.formatCommand, dhall, format, inplace] using held

theorem exists_holdsZero_encoder {type output : String}
    (held : ∃ text ∈ Conversion.encoderCommand type output, holdsZero text = true) :
    holdsZero type = true ∨ holdsZero output = true := by
  have name : holdsZero "yaml-to-dhall" = false := by decide
  have loose : holdsZero "--records-loose" = false := by decide
  have option : holdsZero "--output" = false := by decide
  by_cases untyped : type = ""
  · exact .inr (by simpa [Conversion.encoderCommand, untyped, name, loose, option] using held)
  · simpa [Conversion.encoderCommand, untyped, name, loose, option] using held

/-!
### Failures of a run
-/

/-- Why a run under some settings, which begins in a world, fails as it is not expected to. -/
inductive UnexpectedCause (s : Settings) (w : World) : RunError → Prop where
  /-- An ignore pattern has no segment. -/
  | pattern {pattern : String} (e : Path.Glob.PatternError) (listed : pattern ∈ s.ignore)
      (empty : Path.parts pattern = []) : UnexpectedCause s w (.load (.pattern e))
  /-- A file of the tree spells a value that there is none of. -/
  | badValue {place : Place} {text : String} {fault : Yaml.ValueFault}
      (file : (place, text) ∈ w.files.tree.files) (spelled : SpellsBadValue text fault)
      (unsound : fault.isForeign = false) : UnexpectedCause s w (.load (.badValue fault))
  /-- A file of the tree is sound, but it holds bytes, a set, or a list or mapping inside itself.
  Nothing is said of how a run with these goes on. -/
  | foreign {place : Place} {text : String} {fault : Yaml.ValueFault}
      (file : (place, text) ∈ w.files.tree.files) (spelled : SpellsBadValue text fault)
      (sound : fault.isForeign = true) : UnexpectedCause s w (.load (.badValue fault))
  /-- A file that the settings name is no text. -/
  | notText {path : Value} (e : ShapeError)
      (named : path ∈ s.namedFiles) (set : path.truthy = true)
      (noText : ∀ text, path ≠ .text text) :
      UnexpectedCause s w (.shape e)
  /-- The path of a file that the settings name has no name in it. -/
  | unnamed {path : String} (named : .text path ∈ s.replacedFiles) (empty : Path.names path = []) :
      UnexpectedCause s w (.unnamedFile (Path.tidy path))
  /-- The path of a file that the settings name holds a zero. -/
  | zeroInPath {path : String} (named : .text path ∈ s.namedFiles) (held : holdsZero path = true) :
      UnexpectedCause s w (.zeroInPath (Path.tidy path))
  /-- The path of a file that is laid out holds a zero, which ends texts. -/
  | zeroInLayout {path : String} (ends : w.host.zeroEndsTexts = true)
      (named : .text path ∈ s.generatedFiles) (held : holdsZero path = true) :
      UnexpectedCause s w (.zeroInCommand (Run.formatCommand path))
  /-- The path of the output holds a zero, or the type by which the record is encoded does. -/
  | zeroInEncoder {type output : String} (ends : w.host.zeroEndsTexts = true)
      (isText : s.output = .text output) (held : holdsZero type = true ∨ holdsZero output = true) :
      UnexpectedCause s w (.zeroInCommand (Conversion.encoderCommand type output))
  /-- The time that a command may take cannot be waited for. -/
  | unwaitable {fault : WaitFault}
      (unwaited : w.host.awaitsCall (.float s.timeout) = .error fault) :
      UnexpectedCause s w (.unwaitable fault)

/-- The failures that come of the making of the files. -/
def MayFail (s : Settings) (w : World) (e : RunError) : Prop :=
  e.isExpected = true ∨ UnexpectedCause s w e

/-- On a system the step succeeds, whatever the files, or it fails in a way that may be. -/
def Fails (host : Host) (allowed : RunError → Prop) (α : Type) (_kinds : List CallKind)
    (run : Run α) : Prop :=
  ∀ w, w.host = host →
    (run.start w).2.host = host ∧ ∀ e, (run.start w).1 = .error e → allowed e

section Steps

variable {host : Host} {allowed : RunError → Prop} {α : Type} {kinds : List CallKind} {run : Run α}

theorem ends_ok {w w' : World} {a : α} (ends : run.start w = (.ok a, w')) (kept : w'.host = host) :
    (run.start w).2.host = host ∧ ∀ e, (run.start w).1 = .error e → allowed e := by
  rw [ends]
  exact ⟨kept, fun e failed => nomatch failed⟩

theorem ends_error {w w' : World} {e : RunError} (ends : run.start w = (.error e, w'))
    (kept : w'.host = host) (given : allowed e) :
    (run.start w).2.host = host ∧ ∀ e, (run.start w).1 = .error e → allowed e := by
  rw [ends]
  refine ⟨kept, fun fault failed => ?_⟩
  cases failed
  exact given

theorem fails_of_ok (step : ∀ w, ∃ a w', run.start w = (.ok a, w') ∧ w'.host = w.host) :
    Fails host allowed α kinds run := by
  intro w same
  obtain ⟨a, w', ends, kept⟩ := step w
  exact ends_ok ends (kept.trans same)

theorem fails_composes (host : Host) (allowed : RunError → Prop) :
    Composes (Fails host allowed) where
  pure a := fails_of_ok fun w => ⟨a, w, rfl, rfl⟩
  bind := by
    intro α β _ _ x f left right w same
    have first := left w same
    rw [Run.start_bind]
    rcases ends : x.start w with ⟨_ | a, between⟩
    · rw [ends] at first
      refine ⟨first.1, fun e failed => ?_⟩
      cases failed
      exact first.2 _ rfl
    · rw [ends] at first
      exact right a between first.1

theorem fails_fileParts (expected : ∀ e : RunError, e.isExpected = true → allowed e) :
    FileParts (Fails host allowed) allowed where
  toComposes := fails_composes host allowed
  files := fails_of_ok fun w => ⟨w.files, w, rfl, rfl⟩
  setFiles files := fails_of_ok fun w => ⟨(), _, rfl, rfl⟩
  fail := by
    intro α kinds e given w same
    exact ends_error rfl same given
  fileFault := fun _ => expected _ rfl
  notReplaced := fun _ => expected _ rfl
  noWriteAccess := fun _ => expected _ rfl

end Steps

section Conversion

variable {s : Settings} {before : World}

theorem mayFail_expected (e : RunError) (expected : e.isExpected = true) : MayFail s before e :=
  Or.inl expected

theorem asPath_eq_error {path : Value} {e : ShapeError} (refused : path.asPath = .error e)
    (text : String) : path ≠ .text text := by
  rintro rfl
  cases refused

theorem asPath_eq_ok {path : Value} {given : String} (isPath : path.asPath = .ok given) :
    path = .text given := by
  cases path <;> cases isPath
  rfl

/-- What keeps a command from being called is that its line is no texts, or that one of them holds a
zero. -/
theorem uncalled_cause {command : List Value} {e : RunError} {allowed : RunError → Prop}
    (uncalled : Run.Uncalled before.host command e)
    (shape : ∀ fault, Value.textsFrom 0 command = .error fault → allowed (.shape fault))
    (zero : ∀ texts, Value.textsFrom 0 command = .ok texts → before.host.zeroEndsTexts = true →
      (∃ text ∈ texts, holdsZero text = true) → allowed (.zeroInCommand texts)) : allowed e := by
  cases uncalled with
  | shape refused => exact shape _ refused
  | zero isTexts held =>
      obtain ⟨ends, text⟩ := Host.starts_eq_false_iff.1 held
      exact zero _ isTexts ends text

theorem fails_infer (yaml : String) :
    Fails before.host (MayFail s before) String [.infer]
      (Run.inferType (.float s.timeout) yaml) := by
  intro w same
  have run := Conversion.start_inferType (.float s.timeout) yaml w
  split at run
  · exact ends_ok run same
  · next e failed =>
    refine ends_error run same ?_
    rcases World.callFailure?_eq_some failed with ⟨fault, unwaited, rfl⟩ | ⟨c, _, rfl⟩
    · exact Or.inr (.unwaitable (same ▸ unwaited))
    · exact Or.inl rfl

theorem fails_encodeRecord (wanted : s.output.truthy = true) (derived : Conversion.Derived) :
    Fails before.host (MayFail s before) Unit [.encode] (Conversion.encodeRecord s derived) := by
  intro w same
  rcases Conversion.encodeRecord_cases s derived w with ⟨fault, uncalled, run⟩ |
    ⟨output, _, ⟨_, run⟩ | ⟨fault, unwaited, run⟩ | ⟨fault, run⟩ | ⟨fault, left, log, _, run⟩⟩
  · refine ends_error run same (uncalled_cause (same ▸ uncalled) (fun e refused => ?_) ?_)
    · refine Or.inr (.notText e (by simp [Settings.namedFiles]) wanted fun output isText => ?_)
      rw [isText, Conversion.textsFrom_encoderLine] at refused
      cases refused
    · intro texts isTexts ends held
      obtain ⟨output, isText, rfl⟩ := Conversion.encoderLine_eq_ok isTexts
      exact Or.inr (.zeroInEncoder ends isText (exists_holdsZero_encoder held))
  · exact ends_ok run same
  · exact ends_error run same (Or.inr (.unwaitable (same ▸ unwaited)))
  · exact ends_error run same (Or.inl rfl)
  · exact ends_error run same (Or.inl rfl)

theorem fails_format {path : Value} (generated : path ∈ s.generatedFiles)
    (set : path.truthy = true) :
    Fails before.host (MayFail s before) Unit [.format path] (Run.format path) := by
  intro w same
  rcases Run.format_cases path w with ⟨fault, uncalled, run⟩ | ⟨file, _, ⟨_, run⟩ | ⟨fault, run⟩⟩
  · refine ends_error run same (uncalled_cause (same ▸ uncalled) (fun e refused => ?_) ?_)
    · refine Or.inr (.notText e (Settings.named_of_generated generated) set fun file isText => ?_)
      rw [isText] at refused
      cases refused
    · intro texts isTexts ends held
      obtain ⟨file, rfl, rfl⟩ := Run.formatLine_eq_ok isTexts
      exact Or.inr (.zeroInLayout ends generated (exists_holdsZero_format held))
  · exact ends_ok run same
  · exact ends_error run same (Or.inl rfl)

theorem fails_parts (wanted : s.output.truthy = true) :
    Parts (Fails before.host (MayFail s before)) s := by
  have parts : FileParts (Fails before.host (MayFail s before)) (MayFail s before) :=
    fails_fileParts mayFail_expected
  have shape {path : Value} (named : path ∈ s.namedFiles) (set : path.truthy = true)
      (e : ShapeError) (refused : path.asPath = .error e) : MayFail s before (.shape e) :=
    Or.inr (.notText e named set (asPath_eq_error refused))
  have zero {path : Value} {given : String} (named : path ∈ s.namedFiles)
      (isPath : path.asPath = .ok given) (held : holdsZero (Path.tidy given) = true) :
      MayFail s before (.zeroInPath (Path.tidy given)) := by
    obtain rfl := asPath_eq_ok isPath
    exact Or.inr (.zeroInPath named (holdsZero_of_tidy held))
  constructor
  case toComposes => exact parts.toComposes
  case note => exact fun line => fails_of_ok fun w => ⟨(), _, rfl, rfl⟩
  case infer => exact fails_infer
  case encodeRecord => exact fails_encodeRecord wanted
  case replaceFile =>
    intro path member set text
    apply parts.replaceFile text (shape (Settings.named_of_replaced member) set)
    · intro given isPath unnamed
      obtain rfl := asPath_eq_ok isPath
      have empty := Path.names_eq_nil unnamed
      rw [Path.names_tidy] at empty
      exact Or.inr (.unnamed member empty)
    · intro given isPath held
      exact zero (Settings.named_of_replaced member) isPath (holdsZero_of_parentOf held)
  case format => exact fun path member set => fails_format member set
  case addBanner =>
    intro path member set
    have named := Settings.named_of_generated member
    exact parts.addBanner _ (shape named set) fun given isPath => zero named isPath
  case outputPath =>
    exact parts.ofExcept (shape (by simp [Settings.namedFiles]) wanted)
  case readFile => exact parts.readFile

end Conversion

/-!
### The whole run
-/

namespace Conversion

/-- One of the ignore patterns is empty. -/
def emptyPattern : Settings :=
  { Settings.default with
    output := .text "out.dhall", typeSource := .schemaPackage, ignore := [""] }

/-- An input without manifests. -/
def plainInput : World where
  files := ⟨.directory [("vfs", .directory [("m", .directory [])])], ["vfs"]⟩
  replies := []
  calls := []
  log := []
  host := .posix

theorem loadedFrom_plainInput :
    (loadedFrom emptyPattern ["m"] plainInput.files).2 = .error (.pattern .empty) := by
  have input : plainInput.files.absolute "m" = "/vfs/m" :=
    show Path.absolute "/vfs" "m" = "/vfs/m" by decide
  have found : plainInput.files.find? "/vfs/m" = some (.directory []) := rfl
  have refused : Path.Glob.isIgnored [""] "/vfs/m" = .error .empty := rfl
  simp [loadedFrom, ResourceSet.load, input, emptyPattern, Loading.addInputs, Loading.addInput,
    found, refused]

theorem start_plainInput :
    ∃ w', (convert emptyPattern ["m"]).start plainInput =
      (.error (.load (.pattern .empty)), w') := by
  rcases start_convert emptyPattern ["m"] plainInput with ⟨unset, _⟩ |
    ⟨_, log, ⟨e, loading, run⟩ | ⟨resources, loading, _⟩⟩
  · cases unset
  · cases loadedFrom_plainInput.symm.trans loading
    exact ⟨_, run⟩
  · cases loadedFrom_plainInput.symm.trans loading

end Conversion

end TypedManifests
