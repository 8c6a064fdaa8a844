/-
Module: TypedManifests.Proofs.EncoderFailure
Purpose: What a conversion comes to when the command that encodes the record fails.
Main exports: encoderCommand, encoderLine_eq_ok, start_encode, encode_failure, dumpDirectory,
  start_encodeRecord,
  encodeRecord_cases, start_convert_of_failure, encoder_failure_outcome, encoder_failure_replaced
-/
import TypedManifests.Proofs.Places
import TypedManifests.Proofs.RunSteps

/-!
When the encoder fails, the record is left as YAML text beside the output and the failure of the
encoder is passed on. But the text is written while that failure is being handled, and writing can
fail itself: then it is the failure of the writing that the run ends with, and nothing of the
encoder's is left in it, neither its command line nor what it had to say. Whether this happens
depends on the files alone, as the call left them: on the directory of the output, which has to be
there, and on `record.yaml` in it, which must not be a directory.
-/

namespace TypedManifests.Conversion

open Run

/-!
### The call
-/

/-- The command line that encodes a record by a type into an output. -/
def encoderCommand (type output : String) : List String :=
  "yaml-to-dhall" :: (if type = "" then [] else [type]) ++ ["--records-loose", "--output", output]

/-- What is called to encode a record is texts if the output is one. -/
theorem encoderLine_eq_ok {type : String} {destination : Value} {texts : List String}
    (isTexts : Value.textsFrom 0 (encoderLine type destination) = .ok texts) :
    ∃ output, destination = .text output ∧ texts = encoderCommand type output := by
  cases destination with
  | text output =>
      refine ⟨output, rfl, ?_⟩
      by_cases untyped : type = "" <;>
        simp_all [encoderLine, encoderName, encoderCommand, Value.textsFrom, Except.map]
  | _ =>
      by_cases untyped : type = "" <;>
        simp_all [encoderLine, encoderName, Value.textsFrom, Except.map]

section Call

variable {timeout destination : Value} {type yaml : String} {w w' : World}

theorem textsFrom_encoderLine (type output : String) :
    Value.textsFrom 0 (encoderLine type (.text output)) = .ok (encoderCommand type output) := by
  by_cases untyped : type = "" <;>
    simp [untyped, encoderLine, encoderName, encoderCommand, Value.textsFrom, Except.map]

theorem start_encode {output : String}
    (starts : w.host.starts (encoderCommand type output) = true) :
    (encode timeout type yaml (.text output)).start w =
      (match w.callFailure? timeout (encoderCommand type output) with
        | none => .ok ()
        | some e => .error e,
       w.afterCall ⟨encoderCommand type output, some yaml, timeout⟩) := by
  unfold encode
  rw [start_bind, start_call (textsFrom_encoderLine type output) starts]
  cases w.callFailure? timeout (encoderCommand type output) <;> rfl

theorem start_encode_of_uncalled {e : RunError}
    (uncalled : Uncalled w.host (encoderLine type destination) e) :
    (encode timeout type yaml destination).start w = (.error e, w) := by
  unfold encode
  rw [start_bind, start_call_of_uncalled uncalled]

/-- The failure of the encoder tells the command line it was called with, and how it replied. -/
theorem encode_failure {e : CommandError}
    (failed : (encode timeout type yaml destination).start w = (.error (.command e), w')) :
    ∃ output, destination = .text output ∧
      w.reply.failure? timeout (encoderCommand type output) = some e ∧
      w' = w.afterCall ⟨encoderCommand type output, some yaml, timeout⟩ := by
  rcases uncalled_or_called w.host (encoderLine type destination) with
    ⟨fault, uncalled⟩ | ⟨texts, isTexts, starts⟩
  · rw [start_encode_of_uncalled uncalled] at failed
    cases uncalled <;> cases failed
  · obtain ⟨output, rfl, rfl⟩ := encoderLine_eq_ok isTexts
    rw [start_encode starts] at failed
    cases ended : w.callFailure? timeout (encoderCommand type output) with
    | none => simp [ended] at failed
    | some fault =>
        obtain ⟨rfl, rfl⟩ : fault = .command e ∧ _ = w' := by simpa [ended] using failed
        rcases World.callFailure?_eq_some ended with ⟨_, _, other⟩ | ⟨c, replied, same⟩
        · cases other
        · cases same
          exact ⟨output, rfl, replied, rfl⟩

end Call

/-!
### The record beside the output
-/

/-- The directory of the output. -/
def dumpDirectory (files : Workspace) (output : String) : Place :=
  (Path.names (files.absolute output)).dropLast

theorem dumpPath_eq (files : Workspace) (output : String) :
    dumpPath files output = Path.ofNames "/" (dumpDirectory files output ++ ["record.yaml"]) :=
  rfl

theorem isName_of_mem_dump (files : Workspace) (output : String) :
    ∀ name ∈ dumpDirectory files output ++ ["record.yaml"], Path.IsName name := by
  intro name member
  rcases List.mem_append.1 member with member | member
  · have inPath : name ∈ Path.names (files.absolute output) := List.dropLast_subset _ member
    exact files.isName_of_mem_absolute inPath
  · rw [List.mem_singleton.1 member]
    exact ⟨by decide, by decide, by decide, by decide⟩

theorem write_dump {files : Workspace} {output : String}
    (takes : files.TakesFile (dumpDirectory files output) "record.yaml") (text : String) :
    files.write (dumpPath files output) text =
      .ok { files with
        tree := files.tree.put (dumpDirectory files output ++ ["record.yaml"]) (.file text) } := by
  rw [dumpPath_eq, Workspace.write_spelled (isName_of_mem_dump files output) takes]

theorem write_dump_refused {files : Workspace} {output : String}
    (refuses : ¬ files.TakesFile (dumpDirectory files output) "record.yaml") (text : String) :
    ∃ fault, files.write (dumpPath files output) text =
      .error ⟨fault, dumpPath files output, none⟩ := by
  rw [dumpPath_eq]
  exact Workspace.write_spelled_refused (isName_of_mem_dump files output) refuses text

/-- What is logged when the record was left beside the output. -/
def dumpLine (path : String) : LogLine :=
  engineLine .error ("failed to execute yaml-to-dhall, record written to " ++ path)

section Handler

variable {s : Settings} {derived : Derived} {output : String} {w w' : World} {e : CommandError}

/-- The failure of the encoder is passed on once the record is written; the failure of the writing
takes its place. -/
theorem start_encodeRecord (isText : s.output = .text output)
    (failed : (encode (.float s.timeout) derived.type (yamlText derived.data) s.output).start w =
      (.error (.command e), w')) :
    (encodeRecord s derived).start w =
      match w'.files.write (dumpPath w'.files output) (yamlText derived.data) with
      | .ok files =>
          (.error (.command e),
            { w' with files, log := w'.log ++ [dumpLine (dumpPath w'.files output)] })
      | .error fault => (.error (.file fault), w') := by
  unfold encodeRecord
  rw [start_tryCatch, failed]
  simp only [start_bind, start_files, isText, Value.asPath, start_ofExcept_ok, start_writeFile]
  cases w'.files.write (dumpPath w'.files output) (yamlText derived.data) <;> rfl

/-- The call that encodes a record. -/
def encoderCall (s : Settings) (derived : Derived) (output : String) : Call :=
  ⟨encoderCommand derived.type output, some (yamlText derived.data), .float s.timeout⟩

/-- How the encoding of a record can end: the encoder is not called, or it succeeds, or it is broken
off, or it fails and then the record is written or not. -/
theorem encodeRecord_cases (s : Settings) (derived : Derived) (w : World) :
    (∃ e, Uncalled w.host (encoderLine derived.type s.output) e ∧
        (encodeRecord s derived).start w = (.error e, w)) ∨
      ∃ output, s.output = .text output ∧
        let called := w.afterCall (encoderCall s derived output)
        w.reply.failure? (.float s.timeout) (encoderCommand derived.type output) = none ∧
            (encodeRecord s derived).start w = (.ok (), called) ∨
          (∃ fault, w.host.awaitsCall (.float s.timeout) = .error fault ∧
            (encodeRecord s derived).start w = (.error (.unwaitable fault), called)) ∨
          (∃ fault, (encodeRecord s derived).start w = (.error (.file fault), called)) ∨
          ∃ e files log,
            called.files.write (dumpPath called.files output) (yamlText derived.data) =
                .ok files ∧
              (encodeRecord s derived).start w =
                (.error (.command e), { called with files, log }) := by
  rcases uncalled_or_called w.host (encoderLine derived.type s.output) with
    ⟨e, uncalled⟩ | ⟨texts, isTexts, starts⟩
  · refine Or.inl ⟨e, uncalled, ?_⟩
    unfold encodeRecord
    rw [start_tryCatch, start_encode_of_uncalled uncalled]
    cases uncalled <;> rfl
  · obtain ⟨output, isText, rfl⟩ := encoderLine_eq_ok isTexts
    refine Or.inr ⟨output, isText, ?_⟩
    intro called
    have encoded := @start_encode (.float s.timeout) derived.type (yamlText derived.data) w output
      starts
    rw [← isText] at encoded
    cases ended : w.callFailure? (.float s.timeout) (encoderCommand derived.type output) with
    | none =>
        rw [ended] at encoded
        refine Or.inl ⟨(World.callFailure?_eq_none ended).1, ?_⟩
        unfold encodeRecord
        rw [start_tryCatch, encoded]
        rfl
    | some e =>
        rw [ended] at encoded
        apply Or.inr
        rcases World.callFailure?_eq_some ended with ⟨fault, unwaited, rfl⟩ | ⟨c, _, rfl⟩
        · refine Or.inl ⟨fault, unwaited, ?_⟩
          unfold encodeRecord
          rw [start_tryCatch, encoded]
          rfl
        · have run := start_encodeRecord isText encoded
          apply Or.inr
          split at run
          · next files written => exact Or.inr ⟨c, files, _, written, run⟩
          · next fault refused => exact Or.inl ⟨fault, run⟩

variable {inputs : List String} {before : World} {ready : Prepared}

/-- A run that reaches a failing encoder ends as the handler of the failure does. -/
theorem start_convert_of_failure (isText : s.output = .text output)
    (reached : (prepare s inputs).start before = (.ok ready, w))
    (failed : (encode (.float s.timeout) ready.derived.type (yamlText ready.derived.data)
      s.output).start w = (.error (.command e), w')) :
    (convert s inputs).start before =
      match w'.files.write (dumpPath w'.files output) (yamlText ready.derived.data) with
      | .ok files =>
          (.error (.command e),
            { w' with files, log := w'.log ++ [dumpLine (dumpPath w'.files output)] })
      | .error fault => (.error (.file fault), w') := by
  rw [convert_eq_stages, start_bind, reached]
  dsimp only
  rw [start_bind, start_encodeRecord isText failed]
  cases w'.files.write (dumpPath w'.files output) (yamlText ready.derived.data) <;> rfl

end Handler

/-!
### What a run with a failing encoder comes to
-/

/-- A run whose encoder fails ends with the encoder's own failure, which tells the command line and
what the command had to say, if `record.yaml` can be written into the directory of the output; the
record is then in it and the rest of the world is as the call left it. If it cannot be written, the
run ends with the failure of the writing, in the world that the call left. -/
theorem encoder_failure_outcome {s : Settings} {inputs : List String} {before w w' : World}
    {ready : Prepared} {e : CommandError}
    (reached : (prepare s inputs).start before = (.ok ready, w))
    (failed : (encode (.float s.timeout) ready.derived.type (yamlText ready.derived.data)
      s.output).start w = (.error (.command e), w')) :
    ∃ output, s.output = .text output ∧
      w.reply.failure? (.float s.timeout) (encoderCommand ready.derived.type output) = some e ∧
      w'.calls = w.calls ++ [⟨encoderCommand ready.derived.type output,
        some (yamlText ready.derived.data), .float s.timeout⟩] ∧
      (w'.files.TakesFile (dumpDirectory w'.files output) "record.yaml" →
        (convert s inputs).start before =
          (.error (.command e),
            { w' with
              files := { w'.files with
                tree := w'.files.tree.put (dumpDirectory w'.files output ++ ["record.yaml"])
                  (.file (yamlText ready.derived.data)) }
              log := w'.log ++ [dumpLine (dumpPath w'.files output)] })) ∧
      (¬ w'.files.TakesFile (dumpDirectory w'.files output) "record.yaml" →
        ∃ fault, (convert s inputs).start before =
          (.error (.file ⟨fault, dumpPath w'.files output, none⟩), w')) := by
  obtain ⟨output, isText, replied, left⟩ := encode_failure failed
  have run := start_convert_of_failure isText reached failed
  refine ⟨output, isText, replied, by rw [left]; rfl, fun takes => ?_, fun refuses => ?_⟩
  · rw [run, write_dump takes (yamlText ready.derived.data)]
  · obtain ⟨fault, refused⟩ := write_dump_refused refuses (yamlText ready.derived.data)
    exact ⟨fault, by rw [run, refused]⟩

/-! A run with and without the directory of the output. -/

/-- The types of the schema package are used, and the output is in a directory of its own. -/
def ownDirectory : Settings :=
  { Settings.default with output := .text "out/record.dhall", typeSource := .schemaPackage }

/-- An input without manifests and what else is in the working directory; the first command that is
called fails. -/
def failingEncoder (others : List (String × FileTree)) : World where
  files := ⟨.directory [("vfs", .directory (("m", .directory []) :: others))], ["vfs"]⟩
  replies := [.finished [] 1 "" "boom"]
  calls := []
  log := []
  host := .posix

/-- The world in which the encoder is called. -/
def encoderCalled (others : List (String × FileTree)) : World :=
  { failingEncoder others with
    log := [engineLine .info "loading resources from m",
      engineLine .info "execute yaml-to-dhall, destination out/record.dhall"] }

theorem load_failingEncoder (others : List (String × FileTree)) :
    ResourceSet.load (failingEncoder others).files [] ownDirectory.schemaUrl ["m"] =
      ([], .ok (.empty "/vfs/m")) := by
  have input : (failingEncoder others).files.absolute "m" = "/vfs/m" :=
    show Path.absolute "/vfs" "m" = "/vfs/m" by decide
  have found : (failingEncoder others).files.find? "/vfs/m" = some (.directory []) := rfl
  have root : ResourceSet.commonRoot (failingEncoder others).files ["/vfs/m"] = "/vfs/m" := rfl
  simp [ResourceSet.load, input, root, Loading.addInputs, Loading.addInput, found,
    Path.Glob.isIgnored, FileTree.manifests, FileTree.manifestsBelow, FileTree.ownManifests,
    FileTree.manifestsOfEach, FileTree.sortByName, Loading.addFiles]

/-- Without resources there is no type and nothing in the record. -/
theorem derive_empty {s : Settings} (source : s.typeSource = .schemaPackage) (root : String)
    (w : World) : (derive s (.empty root)).start w = (.ok (.plain "" (.map [])), w) := by
  have type : (ResourceSet.empty root).schemaType = "" := by
    simp [ResourceSet.schemaType, ResourceSet.sortedComponents, ResourceSet.empty]
  have record : (ResourceSet.empty root).record = [] := by
    simp [ResourceSet.record, ResourceSet.sortedComponents, ResourceSet.empty]
  unfold derive
  rw [source, type, record]
  rfl

theorem prepare_failingEncoder (others : List (String × FileTree)) :
    (prepare ownDirectory ["m"]).start (failingEncoder others) =
      (.ok ⟨.empty "/vfs/m", .plain "" (.map []), []⟩, encoderCalled others) := by
  have wanted : ownDirectory.output.truthy = true := rfl
  have ignore : ownDirectory.ignore = [] := rfl
  have file : ownDirectory.typeFile.truthy = false := rfl
  have display : ownDirectory.output.display = "out/record.dhall" := rfl
  have derived := @derive_empty ownDirectory rfl "/vfs/m"
  unfold prepare
  simp [-bind_pure_comp, wanted, ignore, start_bind, info, load_failingEncoder, derived, writeIf,
    file, display]
  rfl

/-- What the encoder then says of its failure. -/
def encoderFault : CommandError :=
  ⟨.exited 1, ["yaml-to-dhall", "--records-loose", "--output", "out/record.dhall"], "boom"⟩

/-- The world that the failing call leaves. -/
def encoderLeft (others : List (String × FileTree)) : World :=
  (encoderCalled others).afterCall
    ⟨encoderFault.command, some (yamlText (.map [])), .float ownDirectory.timeout⟩

theorem encode_failingEncoder (others : List (String × FileTree)) :
    (encode (.float ownDirectory.timeout) "" (yamlText (.map [])) ownDirectory.output).start
      (encoderCalled others) = (.error (.command encoderFault), encoderLeft others) := by
  have starts : (encoderCalled others).host.starts encoderFault.command = true :=
    show Host.posix.starts encoderFault.command = true by decide
  have awaited : (encoderCalled others).host.awaitsCall (.float ownDirectory.timeout) = .ok () :=
    show Host.posix.awaits (.ofInt 180) = .ok () from rfl
  refine (start_encode starts).trans ?_
  unfold World.callFailure?
  rw [awaited]
  rfl

theorem dumpDirectory_encoderLeft (others : List (String × FileTree)) :
    dumpDirectory (encoderLeft others).files "out/record.dhall" = ["vfs", "out"] :=
  show (Path.names (Path.absolute "/vfs" "out/record.dhall")).dropLast = ["vfs", "out"] by decide

/-- With the directory there, the run ends with the failure of the encoder. -/
theorem encoder_failure_outcome_dumped :
    let others : List (String × FileTree) := [("out", .directory [])]
    let ready : Prepared := ⟨.empty "/vfs/m", .plain "" (.map []), []⟩
    (prepare ownDirectory ["m"]).start (failingEncoder others) =
        (.ok ready, encoderCalled others) ∧
      (encode (.float ownDirectory.timeout) ready.derived.type (yamlText ready.derived.data)
        ownDirectory.output).start (encoderCalled others) =
          (.error (.command encoderFault), encoderLeft others) ∧
      ((convert ownDirectory ["m"]).start (failingEncoder others)).1 =
        .error (.command encoderFault) := by
  intro others ready
  obtain ⟨output, isText, -, -, dumped, -⟩ := encoder_failure_outcome
    (prepare_failingEncoder others) (encode_failingEncoder others)
  obtain rfl : "out/record.dhall" = output := by simpa [ownDirectory] using isText
  have takes : (encoderLeft others).files.TakesFile ["vfs", "out"] "record.yaml" :=
    ⟨⟨[], rfl⟩, fun entries occupied => nomatch occupied⟩
  rw [← dumpDirectory_encoderLeft others] at takes
  refine ⟨prepare_failingEncoder others, encode_failingEncoder others, ?_⟩
  rw [dumped takes]

/-- Without the directory the run ends with the failure to write into it. -/
theorem encoder_failure_replaced :
    ∃ (s : Settings) (inputs : List String) (before w w' : World) (ready : Prepared)
      (e : CommandError),
      (prepare s inputs).start before = (.ok ready, w) ∧
        (encode (.float s.timeout) ready.derived.type (yamlText ready.derived.data)
          s.output).start w = (.error (.command e), w') ∧
        ((convert s inputs).start before).1 =
          .error (.file ⟨.notFound, "/vfs/out/record.yaml", none⟩) := by
  refine ⟨ownDirectory, ["m"], failingEncoder [], encoderCalled [], encoderLeft [], _, encoderFault,
    prepare_failingEncoder [], encode_failingEncoder [], ?_⟩
  have refused (text : String) :
      (encoderLeft []).files.write (dumpPath (encoderLeft []).files "out/record.dhall") text =
        .error ⟨.notFound, "/vfs/out/record.yaml", none⟩ := by
    rw [dumpPath_eq, dumpDirectory_encoderLeft]
    rfl
  rw [start_convert_of_failure rfl (prepare_failingEncoder []) (encode_failingEncoder []), refused]

end TypedManifests.Conversion
