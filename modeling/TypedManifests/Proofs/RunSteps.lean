/-
Module: TypedManifests.Proofs.RunSteps
Purpose: What the steps of a run come to in a world, and a conversion cut where the record is
  encoded.
Main exports: Run.start_bind, Run.start_tryCatch, Reply.failure?, World.callFailure?,
  World.afterCall, Run.start_call, Run.Uncalled, Run.format_cases, Conversion.start_inferType,
  Conversion.prepare, Conversion.finish, Conversion.convert_eq_stages
-/
import TypedManifests.Run.Conversion

/-!
A run is started in a world and leaves a result or a failure and the world after it. Each step has
one equation for that, so that a run is followed from world to world without a look at how runs are
put together. The call of a command is one step, unless its command line cannot be passed on: it is
noted, the next reply is taken, the files the reply brings are there afterwards whether the command
failed or not, and the failure, if there is one, is told by the reply and by what the system can
wait for.
-/

namespace TypedManifests

/-!
### One step after another
-/

namespace Run

variable {α β : Type}

theorem start_bind (x : Run α) (f : α → Run β) (w : World) :
    (x >>= f).start w =
      match x.start w with
      | (.ok a, w') => (f a).start w'
      | (.error e, w') => (.error e, w') := by
  rcases left : x.start w with ⟨result, w'⟩
  have run : x w = (result, w') := left
  simp only [start, ExceptT.run, bind, ExceptT.bind, ExceptT.mk, StateT.bind, ExceptT.bindCont,
    run]
  cases result <;> rfl

/-- A handler starts in the world that the failure left. -/
theorem start_tryCatch (x : Run α) (handle : RunError → Run α) (w : World) :
    (tryCatch x handle : Run α).start w =
      match x.start w with
      | (.ok a, w') => (.ok a, w')
      | (.error e, w') => (handle e).start w' := by
  rcases left : x.start w with ⟨result, w'⟩
  have run : x w = (result, w') := left
  simp only [start, ExceptT.run, tryCatch, tryCatchThe, MonadExceptOf.tryCatch, ExceptT.tryCatch,
    ExceptT.mk, bind, StateT.bind, run]
  cases result <;> rfl

@[simp] theorem start_pure (a : α) (w : World) : (pure a : Run α).start w = (.ok a, w) := rfl

@[simp] theorem start_fail (e : RunError) (w : World) :
    (fail e : Run α).start w = (.error e, w) := rfl

@[simp] theorem start_get (w : World) : (get : Run World).start w = (.ok w, w) := rfl

@[simp] theorem start_files (w : World) : files.start w = (.ok w.files, w) := rfl

@[simp] theorem start_modify (change : World → World) (w : World) :
    (modify change : Run PUnit).start w = (.ok (), change w) := rfl

@[simp] theorem start_setFiles (files : Workspace) (w : World) :
    (setFiles files).start w = (.ok (), { w with files }) := rfl

@[simp] theorem start_note (line : LogLine) (w : World) :
    (note line).start w = (.ok (), { w with log := w.log ++ [line] }) := rfl

@[simp] theorem start_ofExcept_ok {ε : Type} (wrap : ε → RunError) (a : α) (w : World) :
    (ofExcept wrap (.ok a)).start w = (.ok a, w) := rfl

@[simp] theorem start_ofExcept_error {ε : Type} (wrap : ε → RunError) (e : ε) (w : World) :
    (ofExcept wrap (.error e) : Run α).start w = (.error (wrap e), w) := rfl

/-- Writing a file changes the files or fails; nothing else happens. -/
theorem start_writeFile (path text : String) (w : World) :
    (writeFile path text).start w =
      match w.files.write path text with
      | .ok files => (.ok (), { w with files })
      | .error e => (.error (.file e), w) := by
  unfold writeFile
  rw [start_bind, start_files]
  dsimp only
  rw [start_bind]
  cases w.files.write path text <;> rfl

end Run

/-!
### Calls
-/

namespace Reply

/-- How a command failed that got this reply. -/
def failure? (timeout : Value) (command : List String) : Reply → Option CommandError
  | .missing => some ⟨.notFound, command, ""⟩
  | .timedOut => some ⟨.timedOut timeout, command, ""⟩
  | .finished _ status _ stderr =>
      if status = 0 then none else some ⟨.exited status, command, stderr⟩

/-- What the command wrote to its standard output. -/
def stdout : Reply → String
  | .finished _ _ stdout _ => stdout
  | _ => ""

/-- The files with those that the command wrote. -/
def provide (files : Workspace) : Reply → Workspace
  | .finished written _ _ _ => written.foldl (fun w (path, text) => w.provide path text) files
  | _ => files

end Reply

namespace World

/-- The reply that the next call gets. -/
def reply (w : World) : Reply := w.replies.headD .missing

/-- How the next call fails. A command that is there is broken off if its limit cannot be waited
for. -/
def callFailure? (w : World) (timeout : Value) (command : List String) : Option RunError :=
  match w.reply with
  | .missing => some (.command ⟨.notFound, command, ""⟩)
  | reply =>
    match w.host.awaitsCall timeout with
    | .error fault => some (.unwaitable fault)
    | .ok () => (reply.failure? timeout command).map .command

/-- A call that does not fail was replied to as one that succeeds, and could be waited for. -/
theorem callFailure?_eq_none {w : World} {timeout : Value} {command : List String}
    (succeeded : w.callFailure? timeout command = none) :
    w.reply.failure? timeout command = none ∧ w.host.awaitsCall timeout = .ok () := by
  unfold callFailure? at succeeded
  split at succeeded
  · cases succeeded
  · split at succeeded
    · cases succeeded
    · next awaited => exact ⟨by simpa using succeeded, awaited⟩

/-- A call fails as the system or as the command does. -/
theorem callFailure?_eq_some {w : World} {timeout : Value} {command : List String} {e : RunError}
    (failed : w.callFailure? timeout command = some e) :
    (∃ fault, w.host.awaitsCall timeout = .error fault ∧ e = .unwaitable fault) ∨
      ∃ c, w.reply.failure? timeout command = some c ∧ e = .command c := by
  unfold callFailure? at failed
  split at failed
  · next missing =>
    cases failed
    exact Or.inr ⟨_, by rw [missing]; rfl, rfl⟩
  · split at failed
    · next fault unwaited =>
      cases failed
      exact Or.inl ⟨fault, unwaited, rfl⟩
    · obtain ⟨c, replied, rfl⟩ := Option.map_eq_some_iff.1 failed
      exact Or.inr ⟨c, replied, rfl⟩

/-- The world after a call. -/
def afterCall (w : World) (call : Call) : World :=
  { w with
    files := w.reply.provide w.files
    replies := w.replies.tail
    calls := w.calls ++ [call] }

end World

namespace Run

theorem start_nextReply (w : World) :
    nextReply.start w = (.ok w.reply, { w with replies := w.replies.tail }) := by
  obtain ⟨files, replies, calls, log⟩ := w
  cases replies <;> rfl

/-- What a call comes to is told by the reply to it and by the time that can be waited. -/
theorem start_call {command : List Value} {texts : List String} {w : World}
    (isTexts : Value.textsFrom 0 command = .ok texts) (starts : w.host.starts texts = true)
    (stdin : Option String) (timeout : Value) :
    (call command stdin timeout).start w =
      (match w.callFailure? timeout texts with
        | none => .ok w.reply.stdout
        | some e => .error e,
       w.afterCall ⟨texts, stdin, timeout⟩) := by
  have pending :
      ({ w with calls := w.calls ++ [⟨texts, stdin, timeout⟩] } : World).reply = w.reply := rfl
  simp only [call, isTexts, start_bind, start_ofExcept_ok, start_get, starts, Bool.not_true,
    Bool.false_eq_true, if_false, start_modify, start_nextReply, pending, World.afterCall,
    World.callFailure?]
  cases w.reply with
  | missing => rfl
  | timedOut =>
      cases w.host.awaitsCall timeout with
      | error fault => rfl
      | ok => rfl
  | finished written status stdout stderr =>
      simp only [start_bind, start_files, start_setFiles, Reply.failure?, Reply.provide]
      cases w.host.awaitsCall timeout with
      | error fault => rfl
      | ok =>
          by_cases succeeded : status = 0
          · simp [succeeded, Reply.stdout]
          · simp [succeeded]

/-- Why a command is not called: its line is no texts, or cannot be passed on. -/
inductive Uncalled (host : Host) (command : List Value) : RunError → Prop where
  | shape {e : ShapeError} (refused : Value.textsFrom 0 command = .error e) :
      Uncalled host command (.shape e)
  | zero {texts : List String} (isTexts : Value.textsFrom 0 command = .ok texts)
      (held : host.starts texts = false) : Uncalled host command (.zeroInCommand texts)

theorem start_call_of_uncalled {command : List Value} {w : World} {e : RunError}
    (uncalled : Uncalled w.host command e) (stdin : Option String) (timeout : Value) :
    (call command stdin timeout).start w = (.error e, w) := by
  cases uncalled with
  | shape refused => simp [call, refused, start_bind]
  | zero isTexts held => simp [call, isTexts, held, start_bind]

/-- A command is called or not. -/
theorem uncalled_or_called (host : Host) (command : List Value) :
    (∃ e, Uncalled host command e) ∨
      ∃ texts, Value.textsFrom 0 command = .ok texts ∧ host.starts texts = true := by
  cases isTexts : Value.textsFrom 0 command with
  | error e => exact Or.inl ⟨_, .shape isTexts⟩
  | ok texts =>
      cases starts : host.starts texts with
      | true => exact Or.inr ⟨texts, rfl, starts⟩
      | false => exact Or.inl ⟨_, .zero isTexts starts⟩

/-- The command line that lays out a file. -/
def formatCommand (file : String) : List String := ["dhall", "format", "--inplace", file]

/-- The call that lays out a file. -/
def formatCall (file : String) : Call := ⟨formatCommand file, none, .null⟩

theorem formatLine_eq_ok {path : Value} {texts : List String}
    (isTexts : Value.textsFrom 0 (formatLine path) = .ok texts) :
    ∃ file, path = .text file ∧ texts = formatCommand file := by
  cases path with
  | text file =>
      cases isTexts
      exact ⟨file, rfl, rfl⟩
  | _ => cases isTexts

/-- How the laying out of a file can end: the command is not called, or it succeeds or fails. -/
theorem format_cases (path : Value) (w : World) :
    (∃ e, Uncalled w.host (formatLine path) e ∧ (format path).start w = (.error e, w)) ∨
      ∃ file, path = .text file ∧
        (w.reply.failure? .null (formatCommand file) = none ∧
            (format path).start w = (.ok (), w.afterCall (formatCall file)) ∨
          ∃ e, (format path).start w = (.error (.command e), w.afterCall (formatCall file))) := by
  rcases uncalled_or_called w.host (formatLine path) with ⟨e, uncalled⟩ | ⟨texts, isTexts, starts⟩
  · refine Or.inl ⟨e, uncalled, ?_⟩
    unfold format
    rw [start_bind, start_call_of_uncalled uncalled]
  · obtain ⟨file, rfl, rfl⟩ := formatLine_eq_ok isTexts
    refine Or.inr ⟨file, rfl, ?_⟩
    unfold format
    rw [start_bind, start_call isTexts starts]
    cases failed : w.callFailure? .null (formatCommand file) with
    | none => exact Or.inl ⟨(World.callFailure?_eq_none failed).1, rfl⟩
    | some e =>
        rcases World.callFailure?_eq_some failed with ⟨fault, unwaited, _⟩ | ⟨c, _, rfl⟩
        · cases unwaited
        · exact Or.inr ⟨c, rfl⟩

end Run

/-!
### The stages of a conversion
-/

namespace Conversion

open Run

/-- The command line that infers the type of a record. -/
def inferCommand : List String := ["yaml-to-dhall", "type"]

/-- Inferring a type is one call, of a command that can always be passed on. -/
theorem start_inferType (timeout : Value) (yaml : String) (w : World) :
    (inferType timeout yaml).start w =
      (match w.callFailure? timeout inferCommand with
        | none => .ok (Text.trim w.reply.stdout)
        | some e => .error e,
       w.afterCall ⟨inferCommand, some yaml, timeout⟩) := by
  have isTexts : Value.textsFrom 0 [encoderName, .text "type"] = .ok inferCommand := rfl
  have starts : w.host.starts inferCommand = true := by
    have plain : inferCommand.any holdsZero = false := by decide
    rw [Host.starts, plain, Bool.and_false, Bool.not_false]
  unfold inferType
  rw [start_bind, start_call isTexts starts]
  cases w.callFailure? timeout inferCommand <;> rfl

/-- What is ready when the record is about to be encoded. -/
structure Prepared where
  resources : ResourceSet
  derived : Derived
  /-- The file of the type, if it was written. -/
  typeFiles : List Value

/-- What a conversion does before it encodes the record. -/
def prepare (s : Settings) (inputs : List String) : Run Prepared := do
  if !s.output.truthy then fail .noOutput
  let here := (← files).path
  let inputs := if inputs.isEmpty then [here] else inputs
  info ("loading resources from " ++ String.intercalate ", " inputs)
  let (log, loaded) := ResourceSet.load (← files) s.ignore s.schemaUrl inputs
  log.forM note
  let resources ← ofExcept .load loaded
  let derived ← derive s resources
  let typeFiles ← writeIf s.typeFile (writeGenerated s.typeFile derived.type)
  info ("execute yaml-to-dhall, destination " ++ s.output.display)
  return ⟨resources, derived, typeFiles⟩

/-- What a conversion does with the encoded record. -/
def finish (s : Settings) (ready : Prepared) : Run Report := do
  let ⟨resources, derived, typeFiles⟩ := ready
  format s.output
  addBanner s.output banner
  let schemaFiles ← writeIf s.schemaFile do
    let record ← readFile (Path.tidy (← ofExcept .shape s.output.asPath))
    writeGenerated s.schemaFile (schemaText derived.type record)
  let componentFiles ← writeIf s.componentsFile
    (replaceFile s.componentsFile (yamlText (Components.summarize derived.data)))
  info "done"
  return {
    output := s.output
    resources := resources.resources.length
    components := (resources.record.map fun entry => entry.1.display).mergeSort fun a b => a ≤ b
    typeSource := s.typeSource
    strengthened := derived.strengthened
    appliedPasses := derived.applied
    written := typeFiles ++ [s.output] ++ schemaFiles ++ componentFiles }

/-- A conversion prepares the record, encodes it, and finishes. -/
theorem convert_eq_stages (s : Settings) (inputs : List String) :
    convert s inputs = (do
      let ready ← prepare s inputs
      encodeRecord s ready.derived
      finish s ready) := by
  unfold convert prepare finish
  cases s.output.truthy <;>
    simp only [Bool.not_true, Bool.not_false, Bool.false_eq_true, if_true, if_false, bind_assoc,
      pure_bind]

end Conversion

end TypedManifests
