/-
Module: TypedManifests.Proofs.OwnFiles
Purpose: The files that a conversion touches: those its settings name and the record beside the
  output, and what its commands write. No temporary file is left, and a file that is not replaced is
  as it was.
Main exports: IsPending, IsOwn, IsFree, Reply.Accounts, Keeps, keeps_parts, Conversion.Replaces,
  Conversion.own_files_only, Conversion.type_file_lost
-/
import TypedManifests.Proofs.EncoderFailure
import TypedManifests.Proofs.Replacement
import TypedManifests.Proofs.RunParts

/-!
Each part of a run keeps all files but its own, so long as the places of the temporary files are
free, and it leaves these free: this is the invariant `Keeps` that is carried from part to part. It
needs that no command puts a file at such a place, and that none of the files that are replaced is
itself the temporary file of another one; a run that is given two such files takes the one for what
is left of the other.
-/

namespace TypedManifests

/-!
### Places of a run
-/

/-- The place of the temporary file of a file that the settings name and that is replaced. -/
def IsPending (s : Settings) (files : Workspace) (p : Place) : Prop :=
  ∃ path, .text path ∈ s.replacedFiles ∧ path ≠ "" ∧ p = files.pendingPlace path

/-- The place of a file that the settings name, or of the record that is left beside the output. -/
def IsOwn (s : Settings) (files : Workspace) (p : Place) : Prop :=
  (∃ path, .text path ∈ s.namedFiles ∧ path ≠ "" ∧ p = files.place path) ∨
    ∃ output, s.output = .text output ∧
      p = Conversion.dumpDirectory files output ++ ["record.yaml"]

namespace Reply

/-- The files that the command wrote. -/
def written : Reply → List (String × String)
  | .finished written _ _ _ => written
  | _ => []

/-- The command wrote a file at the place. -/
def Writes (files : Workspace) (reply : Reply) (p : Place) : Prop :=
  ∃ entry ∈ reply.written, p = files.writtenPlace entry.1

/-- The command wrote a file above the place, where there may have been a directory. -/
def WritesAbove (files : Workspace) (reply : Reply) (p : Place) : Prop :=
  ∃ entry ∈ reply.written, files.writtenPlace entry.1 <+: p

/-- A new text at the place, or none, is the work of the command: it wrote a file there, or it wrote
one above the place and then there is nothing any more. -/
def Accounts (files : Workspace) (reply : Reply) (p : Place) (new : Option String) : Prop :=
  reply.Writes files p ∨ reply.WritesAbove files p ∧ new = none

end Reply

/-- There is no file where the text for another one is written first, and no command writes one
there. -/
def IsFree (before : World) (target : String) : Prop :=
  before.files.tree.text? (before.files.pendingPlace target) = none ∧
    ∀ reply ∈ before.replies, ¬ reply.Writes before.files (before.files.pendingPlace target)

/-- There is no file where a temporary file will be. -/
def IsClear (s : Settings) (files now : Workspace) : Prop :=
  ∀ p, IsPending s files p → now.tree.text? p = none

section Places

variable {files files' : Workspace}

theorem place_congr (same : files'.directory = files.directory) (path : String) :
    files'.place path = files.place path := by
  simp [Workspace.place, Workspace.origin, same]

theorem absolute_congr (same : files'.directory = files.directory) (path : String) :
    files'.absolute path = files.absolute path := by
  simp [Workspace.absolute, Workspace.path, same]

theorem writtenPlace_congr (same : files'.directory = files.directory) (path : String) :
    files'.writtenPlace path = files.writtenPlace path := by
  rw [Workspace.writtenPlace, absolute_congr same, Workspace.writtenPlace]

theorem pendingPlace_congr (same : files'.directory = files.directory) (path : String) :
    files'.pendingPlace path = files.pendingPlace path :=
  place_congr same _

theorem dumpDirectory_congr (same : files'.directory = files.directory) (output : String) :
    Conversion.dumpDirectory files' output = Conversion.dumpDirectory files output := by
  simp [Conversion.dumpDirectory, absolute_congr same]

namespace Reply

/-- The files that a command wrote are there one after the other. -/
theorem provide_cons (files : Workspace) (path text : String) (rest : List (String × String))
    (status : Int) (stdout stderr : String) :
    provide files (.finished ((path, text) :: rest) status stdout stderr) =
      provide (files.provide path text) (.finished rest status stdout stderr) := by
  simp only [provide, List.foldl_cons]

theorem directory_provide (reply : Reply) (files : Workspace) :
    (reply.provide files).directory = files.directory := by
  cases reply with
  | finished written status stdout stderr =>
      induction written generalizing files with
      | nil => rfl
      | cons entry rest ih =>
          obtain ⟨path, text⟩ := entry
          rw [provide_cons, ih, Workspace.directory_provide]
  | _ => rfl

/-- Where a command writes nothing, nor above it, nothing changes. -/
theorem text?_provide (reply : Reply) {p : Place} (apart : ¬ reply.WritesAbove files p) :
    (reply.provide files).tree.text? p = files.tree.text? p := by
  cases reply with
  | finished written status stdout stderr =>
      induction written generalizing files with
      | nil => rfl
      | cons entry rest ih =>
          obtain ⟨path, text⟩ := entry
          have places := writtenPlace_congr (files.directory_provide path text)
          have first : ¬ files.writtenPlace path <+: p := fun above =>
            apart ⟨(path, text), List.mem_cons_self, above⟩
          rw [provide_cons, ih, Workspace.text?_provide first]
          rintro ⟨other, listed, above⟩
          rw [places] at above
          exact apart ⟨other, List.mem_cons_of_mem _ listed, above⟩
  | _ => rfl

/-- Where there was no file there is none unless the command wrote it. -/
theorem text?_provide_none (reply : Reply) {p : Place} (absent : files.tree.text? p = none)
    (apart : ¬ reply.Writes files p) : (reply.provide files).tree.text? p = none := by
  cases reply with
  | finished written status stdout stderr =>
      induction written generalizing files with
      | nil => exact absent
      | cons entry rest ih =>
          obtain ⟨path, text⟩ := entry
          have places := writtenPlace_congr (files.directory_provide path text)
          have first : p ≠ files.writtenPlace path := fun same =>
            apart ⟨(path, text), List.mem_cons_self, same⟩
          rw [provide_cons]
          apply ih
          · exact Workspace.text?_provide_none absent first
          · rintro ⟨other, listed, same⟩
            rw [places] at same
            exact apart ⟨other, List.mem_cons_of_mem _ listed, same⟩
  | _ => exact absent

/-- Below a file that a command wrote there is nothing but what it wrote there later. -/
theorem text?_provide_above (reply : Reply) {p : Place} (above : reply.WritesAbove files p)
    (apart : ¬ reply.Writes files p) : (reply.provide files).tree.text? p = none := by
  cases reply with
  | finished written status stdout stderr =>
      obtain ⟨entry, listed, inside⟩ := above
      induction written generalizing files with
      | nil => cases listed
      | cons first rest ih =>
          obtain ⟨path, text⟩ := first
          have places := writtenPlace_congr (files.directory_provide path text)
          have others :
              ¬ (finished rest status stdout stderr).Writes (files.provide path text) p := by
            rintro ⟨other, later, same⟩
            rw [places] at same
            exact apart ⟨other, List.mem_cons_of_mem _ later, same⟩
          rw [provide_cons]
          rcases List.mem_cons.1 listed with rfl | later
          · apply text?_provide_none _ _ others
            rw [Workspace.tree_provide]
            apply FileTree.text?_put_below inside
            exact fun same => apart ⟨(path, text), List.mem_cons_self, same⟩
          · apply ih others later
            rwa [places]
  | _ => cases above.choose_spec.1

/-- What changed is the work of the command. -/
theorem accounts_provide (reply : Reply) {p : Place}
    (differs : (reply.provide files).tree.text? p ≠ files.tree.text? p) :
    reply.Accounts files p ((reply.provide files).tree.text? p) := by
  by_cases here : reply.Writes files p
  · exact Or.inl here
  · have above : reply.WritesAbove files p :=
      Classical.byContradiction fun apart => differs (reply.text?_provide apart)
    exact Or.inr ⟨above, reply.text?_provide_above above here⟩

theorem writes_congr (same : files'.directory = files.directory) (reply : Reply) (p : Place) :
    reply.Writes files' p ↔ reply.Writes files p := by
  simp only [Writes, writtenPlace_congr same]

theorem accounts_congr (same : files'.directory = files.directory) (reply : Reply) (p : Place)
    (new : Option String) : reply.Accounts files' p new ↔ reply.Accounts files p new := by
  simp only [Accounts, WritesAbove, writes_congr same, writtenPlace_congr same]

end Reply

/-- The record that is left is no temporary file. -/
theorem not_isPending_record (s : Settings) (files : Workspace) (directory : Place) :
    ¬ IsPending s files (directory ++ ["record.yaml"]) := by
  rintro ⟨path, _, _, same⟩
  obtain ⟨parent, spelled⟩ := files.pendingPlace_eq path
  rw [spelled] at same
  have last : "record.yaml" = Path.baseName path ++ Run.pendingEnding :=
    (List.append_inj' same rfl).2 |> List.singleton_inj.1
  have ends : "record.yaml".toList.getLast? =
      (Path.baseName path ++ Run.pendingEnding).toList.getLast? :=
    congrArg (fun name : String => name.toList.getLast?) last
  have ending : Run.pendingEnding.toList.getLast? = some 'p' := by decide
  rw [String.toList_append, List.getLast?_append, ending, Option.some_or] at ends
  exact absurd ends (by decide)

end Places

/-!
### What a step keeps
-/

/-- No command that is still to come writes a file where a temporary file will be. -/
def IsQuiet (s : Settings) (files : Workspace) (replies : List Reply) : Prop :=
  ∀ reply ∈ replies, ∀ p, IsPending s files p → ¬ reply.Writes files p

/-- The places of the temporary files are free, and stay so whatever the commands write. -/
structure Undisturbed (s : Settings) (files : Workspace) (w : World) : Prop where
  here : w.files.directory = files.directory
  clear : IsClear s files w.files
  quiet : IsQuiet s files w.replies

/-- A run begins undisturbed if the places of its temporary files are free. -/
theorem undisturbed_of_free {s : Settings} {before : World}
    (free : ∀ target, .text target ∈ s.replacedFiles → target ≠ "" → IsFree before target) :
    Undisturbed s before.files before where
  here := rfl
  clear := by
    rintro p ⟨target, replaced, nonempty, place⟩
    rw [place]
    exact (free target replaced nonempty).1
  quiet := by
    rintro reply member p ⟨target, replaced, nonempty, place⟩
    rw [place]
    exact (free target replaced nonempty).2 reply member

/-- Between two worlds some replies were used, no file changed but those of the run and those that
commands wrote, and there is no file where temporary files will be. -/
structure Keeps (s : Settings) (files : Workspace) (w w' : World) : Prop where
  directory : w'.files.directory = w.files.directory
  clear : IsClear s files w'.files
  used : ∃ used, w.replies = used ++ w'.replies ∧
    ∀ p, w'.files.tree.text? p ≠ w.files.tree.text? p →
      IsOwn s files p ∨ ∃ reply ∈ used, reply.Accounts files p (w'.files.tree.text? p)

namespace Keeps

variable {s : Settings} {files : Workspace} {w between w' : World}

/-- The files are the same and no reply was used. -/
theorem of_same (start : Undisturbed s files w) (same : w'.files = w.files)
    (replies : w'.replies = w.replies) : Keeps s files w w' where
  directory := by rw [same]
  clear := by
    rw [same]
    exact start.clear
  used := by
    refine ⟨[], by rw [replies, List.nil_append], fun p differs => ?_⟩
    rw [same] at differs
    exact absurd rfl differs

/-- No reply was used, and the text changed at one place, which is a place of the run. -/
theorem of_one {spot : Place} {text : String} (start : Undisturbed s files w)
    (own : IsOwn s files spot) (free : ¬ IsPending s files spot)
    (directory : w'.files.directory = w.files.directory) (replies : w'.replies = w.replies)
    (texts : ∀ p, w'.files.tree.text? p = if p = spot then some text else w.files.tree.text? p) :
    Keeps s files w w' where
  directory := directory
  clear := by
    intro p pending
    have elsewhere : p ≠ spot := by
      rintro rfl
      exact free pending
    rw [texts, if_neg elsewhere]
    exact start.clear p pending
  used := by
    refine ⟨[], by rw [replies, List.nil_append], fun p differs => ?_⟩
    rw [texts] at differs
    split at differs
    · next here =>
      rw [here]
      exact Or.inl own
    · exact absurd rfl differs

/-- What is undisturbed stays undisturbed. -/
theorem undisturbed (kept : Keeps s files w w') (start : Undisturbed s files w) :
    Undisturbed s files w' where
  here := kept.directory.trans start.here
  clear := kept.clear
  quiet := by
    obtain ⟨used, replies, -⟩ := kept.used
    intro reply member
    apply start.quiet
    rw [replies]
    exact List.mem_append_right _ member

theorem trans (first : Keeps s files w between) (second : Keeps s files between w') :
    Keeps s files w w' where
  directory := second.directory.trans first.directory
  clear := second.clear
  used := by
    obtain ⟨used, replies, texts⟩ := first.used
    obtain ⟨later, replies', texts'⟩ := second.used
    refine ⟨used ++ later, by rw [replies, replies', List.append_assoc], fun p differs => ?_⟩
    by_cases same : w'.files.tree.text? p = between.files.tree.text? p
    · -- the change was made by the first step
      rw [same] at differs ⊢
      rcases texts p differs with own | ⟨reply, member, accounts⟩
      · exact Or.inl own
      · exact Or.inr ⟨reply, List.mem_append_left _ member, accounts⟩
    · rcases texts' p same with own | ⟨reply, member, accounts⟩
      · exact Or.inl own
      · exact Or.inr ⟨reply, List.mem_append_right _ member, accounts⟩

end Keeps

/-- From every undisturbed world the step keeps what is not its own. -/
def KeepsOthers (s : Settings) (files : Workspace) (α : Type) (_kinds : List CallKind)
    (run : Run α) : Prop :=
  ∀ w, Undisturbed s files w → Keeps s files w (run.start w).2

section Steps

variable {s : Settings} {files : Workspace}

theorem keeps_composes (s : Settings) (files : Workspace) : Composes (KeepsOthers s files) where
  pure := by
    intro α a w start
    exact .of_same start rfl rfl
  bind := by
    intro α β _ _ x f left right w start
    have first := left w start
    rw [Run.start_bind]
    rcases run : x.start w with ⟨_ | a, between⟩
    · rwa [run] at first
    · rw [run] at first
      exact first.trans (right a between (first.undisturbed start))

/-- What leaves the world as it is but for the log keeps everything. -/
theorem keeps_of_idle {α : Type} {kinds : List CallKind} {run : Run α}
    (idle : ∀ w, ∃ log, (run.start w).2 = { w with log }) : KeepsOthers s files α kinds run := by
  intro w start
  obtain ⟨log, same⟩ := idle w
  rw [same]
  exact .of_same start rfl rfl

/-- A call changes what its reply writes. -/
theorem keeps_afterCall {w : World} (start : Undisturbed s files w) (call : Call) :
    Keeps s files w (w.afterCall call) := by
  have here := start.here
  obtain ⟨now, replies, calls, log, host⟩ := w
  cases replies with
  | nil => exact .of_same start rfl rfl
  | cons reply rest =>
      constructor
      case directory => exact reply.directory_provide now
      case clear =>
        intro p pending
        apply reply.text?_provide_none (start.clear p pending)
        rw [Reply.writes_congr here]
        exact start.quiet reply List.mem_cons_self p pending
      case used =>
        refine ⟨[reply], rfl, ?_⟩
        intro p differs
        have accounts := reply.accounts_provide differs
        rw [Reply.accounts_congr here] at accounts
        exact Or.inr ⟨reply, List.mem_cons_self, accounts⟩

/-- The record that is left beside the output is one of the places of the run. -/
theorem keeps_dump {w : World} (start : Undisturbed s files w) {output text : String}
    (isText : s.output = .text output) {left : Workspace}
    (written : w.files.write (Conversion.dumpPath w.files output) text = .ok left)
    (log : List LogLine) : Keeps s files w { w with files := left, log } := by
  by_cases takes : w.files.TakesFile (Conversion.dumpDirectory w.files output) "record.yaml"
  · rw [Conversion.write_dump takes] at written
    have own : IsOwn s files (Conversion.dumpDirectory w.files output ++ ["record.yaml"]) := by
      rw [dumpDirectory_congr start.here]
      exact Or.inr ⟨output, isText, rfl⟩
    have texts (p : Place) : left.tree.text? p =
        if p = Conversion.dumpDirectory w.files output ++ ["record.yaml"] then some text
        else w.files.tree.text? p := by
      rw [← Except.ok.inj written]
      dsimp only
      exact Workspace.text?_put_file takes
    have directory : left.directory = w.files.directory := by rw [← Except.ok.inj written]
    exact .of_one start own (not_isPending_record s files _) directory rfl texts
  · obtain ⟨fault, refused⟩ := Conversion.write_dump_refused takes text
    cases refused.symm.trans written

theorem keeps_encodeRecord (derived : Conversion.Derived) :
    KeepsOthers s files Unit [.encode] (Conversion.encodeRecord s derived) := by
  intro w start
  rcases Conversion.encodeRecord_cases s derived w with ⟨e, _, run⟩ | ⟨output, isText, ended⟩
  · rw [run]
    exact .of_same start rfl rfl
  · have called := keeps_afterCall start (Conversion.encoderCall s derived output)
    rcases ended with
      ⟨_, run⟩ | ⟨fault, _, run⟩ | ⟨fault, run⟩ | ⟨e, left, log, written, run⟩
    · rwa [run]
    · rwa [run]
    · rwa [run]
    · rw [run]
      exact called.trans (keeps_dump (called.undisturbed start) isText written log)

theorem ne_empty_of_truthy {path : String} (set : (Value.text path).truthy = true) : path ≠ "" := by
  rintro rfl
  cases set

/-- In an undisturbed world there is no file where that of a replaced one is written first. -/
theorem absent_of_clear {w : World} (start : Undisturbed s files w) {path : Value}
    (replaced : path ∈ s.replacedFiles) (set : path.truthy = true) {given : String}
    (isText : path = .text given) : w.files.tree.text? (w.files.pendingPlace given) = none := by
  subst isText
  exact start.clear _ ⟨given, replaced, ne_empty_of_truthy set, pendingPlace_congr start.here given⟩

/-- None of the files that are replaced is a temporary file of the run. -/
def Apart (s : Settings) (files : Workspace) : Prop :=
  ∀ path, .text path ∈ s.replacedFiles → path ≠ "" → ¬ IsPending s files (files.place path)

theorem keeps_replaceFile (apart : Apart s files) {path : Value} (replaced : path ∈ s.replacedFiles)
    (set : path.truthy = true) (text : String) :
    KeepsOthers s files Unit [] (Run.replaceFile path text) := by
  intro w start
  rcases Run.replaceFile_whole text fun given => absent_of_clear start replaced set with
    ⟨e, run⟩ | ⟨given, left, rfl, run, directory, texts⟩
  · rw [run]
    exact .of_same start rfl rfl
  · rw [run]
    have spot := place_congr start.here given
    have nonempty := ne_empty_of_truthy set
    have own : IsOwn s files (w.files.place given) :=
      Or.inl ⟨given, Settings.named_of_replaced replaced, nonempty, spot⟩
    have free : ¬ IsPending s files (w.files.place given) := by
      rw [spot]
      exact apart given replaced nonempty
    exact .of_one start own free directory rfl texts

theorem keeps_addBanner {path : Value} (generated : path ∈ s.generatedFiles)
    (set : path.truthy = true) (banner : String) :
    KeepsOthers s files Unit [] (Run.addBanner path banner) := by
  intro w start
  rcases Run.addBanner_whole w path banner with ⟨e, run⟩ |
    ⟨given, old, left, rfl, there, run, directory, texts⟩
  · rw [run]
    exact .of_same start rfl rfl
  · rw [run]
    have own : IsOwn s files (w.files.place given) :=
      Or.inl ⟨given, Settings.named_of_generated generated, ne_empty_of_truthy set,
        place_congr start.here given⟩
    -- the file had a text before
    have free : ¬ IsPending s files (w.files.place given) := by
      intro pending
      rw [start.clear _ pending] at there
      cases there
    exact .of_one start own free directory rfl texts

theorem keeps_inferType (yaml : String) :
    KeepsOthers s files String [.infer] (Run.inferType (.float s.timeout) yaml) := by
  intro w start
  rw [Conversion.start_inferType]
  exact keeps_afterCall start _

theorem keeps_format (path : Value) :
    KeepsOthers s files Unit [.format path] (Run.format path) := by
  intro w start
  rcases Run.format_cases path w with ⟨e, _, run⟩ | ⟨file, _, ⟨_, run⟩ | ⟨e, run⟩⟩
  · rw [run]
    exact .of_same start rfl rfl
  · rw [run]
    exact keeps_afterCall start _
  · rw [run]
    exact keeps_afterCall start _

theorem keeps_parts (apart : Apart s files) : Parts (KeepsOthers s files) s where
  toComposes := keeps_composes s files
  note := fun line => keeps_of_idle fun w => ⟨_, rfl⟩
  infer := keeps_inferType
  encodeRecord := keeps_encodeRecord
  replaceFile := fun _ replaced set text => keeps_replaceFile apart replaced set text
  format := fun path _ _ => keeps_format path
  addBanner := fun _ generated set => keeps_addBanner generated set Run.banner
  outputPath := by
    apply keeps_of_idle
    intro w
    refine ⟨w.log, ?_⟩
    cases s.output.asPath <;> rfl
  readFile := by
    intro path
    apply keeps_of_idle
    intro w
    refine ⟨w.log, ?_⟩
    rw [Run.start_readFile]
    cases w.files.read path <;> rfl

end Steps

/-!
### The files that a run replaces
-/

namespace Conversion

open Run

/-- What a conversion does before it writes the file of the type. -/
def untilTypeFile (s : Settings) (inputs : List String) : Run Derived := do
  let resources ← loadInputs s inputs
  derive s resources

/-- What a conversion does until the output is in its last form. -/
def untilOutput (s : Settings) (inputs : List String) : Run Prepared := do
  let ready ← prepare s inputs
  encodeRecord s ready.derived
  format s.output
  addBanner s.output banner
  return ready

/-- What a conversion does before it writes the schema file, whose text comes of it. -/
def untilSchemaFile (s : Settings) (inputs : List String) : Run String := do
  let ready ← untilOutput s inputs
  let record ← readFile (Path.tidy (← ofExcept .shape s.output.asPath))
  return schemaText ready.derived.type record

/-- What a conversion does before it writes the summary of the components. -/
def untilComponentsFile (s : Settings) (inputs : List String) : Run Prepared := do
  let ready ← untilOutput s inputs
  let _ ← writeIf s.schemaFile do
    let record ← readFile (Path.tidy (← ofExcept .shape s.output.asPath))
    writeGenerated s.schemaFile (schemaText ready.derived.type record)
  return ready

/-- The run comes to the point where a file is replaced by a text, in a world. -/
inductive Replaces (s : Settings) (inputs : List String) (before : World) :
    Value → String → World → Prop where
  | type {derived : Derived} {w : World} (set : s.typeFile.truthy = true)
      (reached : (untilTypeFile s inputs).start before = (.ok derived, w)) :
      Replaces s inputs before s.typeFile derived.type w
  | schema {text : String} {w : World} (set : s.schemaFile.truthy = true)
      (reached : (untilSchemaFile s inputs).start before = (.ok text, w)) :
      Replaces s inputs before s.schemaFile text w
  | components {ready : Prepared} {w : World} (set : s.componentsFile.truthy = true)
      (reached : (untilComponentsFile s inputs).start before = (.ok ready, w)) :
      Replaces s inputs before s.componentsFile
        (yamlText (Components.summarize ready.derived.data)) w

section Stages

variable {s : Settings} {inputs : List String} {before w w' : World} {path : Value} {text : String}
  {e : RunError}

theorem Replaces.replaced (reached : Replaces s inputs before path text w) :
    path ∈ s.replacedFiles ∧ path.truthy = true := by
  cases reached with
  | type set => exact ⟨by simp [Settings.replacedFiles], set⟩
  | schema set => exact ⟨by simp [Settings.replacedFiles], set⟩
  | components set => exact ⟨by simp [Settings.replacedFiles], set⟩

/-- Two steps fail if the first one fails. -/
theorem failed_of_first {α β : Type} {x : Run α} {f : α → Run β}
    (first : x.start before = (.error e, w')) : (x >>= f).start before = (.error e, w') :=
  bind_eq_error.2 (Or.inl first)

/-- Two steps fail if the first one succeeds and the second one fails. -/
theorem failed_of_second {α β : Type} {x : Run α} {f : α → Run β} {a : α}
    (first : x.start before = (.ok a, w)) (second : (f a).start w = (.error e, w')) :
    (x >>= f).start before = (.error e, w') :=
  bind_eq_error.2 (Or.inr ⟨a, w, first, second⟩)

theorem failed_writeIf {write : Run Unit} (set : path.truthy = true)
    (failed : write.start w = (.error e, w')) : (writeIf path write).start w = (.error e, w') := by
  unfold writeIf
  rw [if_pos set]
  exact failed_of_first failed

theorem untilOutput_eq_ok {ready : Prepared}
    (reached : (untilOutput s inputs).start before = (.ok ready, w)) :
    ∃ w₁ w₂ w₃, (prepare s inputs).start before = (.ok ready, w₁) ∧
      (encodeRecord s ready.derived).start w₁ = (.ok (), w₂) ∧
      (format s.output).start w₂ = (.ok (), w₃) ∧
      (addBanner s.output banner).start w₃ = (.ok (), w) := by
  obtain ⟨ready, w₁, prepared, reached⟩ := bind_eq_ok.1 reached
  obtain ⟨_, w₂, encoded, reached⟩ := bind_eq_ok.1 reached
  obtain ⟨_, w₃, formatted, reached⟩ := bind_eq_ok.1 reached
  obtain ⟨_, w₄, marked, returned⟩ := bind_eq_ok.1 reached
  cases returned
  exact ⟨w₁, w₂, w₃, prepared, encoded, formatted, marked⟩

/-- A run ends when a file is not replaced. -/
theorem Replaces.ends (reached : Replaces s inputs before path text w)
    (failed : (replaceFile path text).start w = (.error e, w')) :
    (convert s inputs).start before = (.error e, w') := by
  cases reached with
  | type set reached =>
      obtain ⟨resources, w₁, loaded, derived⟩ := bind_eq_ok.1 reached
      rw [convert_eq_halves]
      apply failed_of_second loaded
      unfold produce
      apply failed_of_second derived
      apply failed_of_first
      apply failed_writeIf set
      exact failed_of_first failed
  | schema set reached =>
      obtain ⟨ready, w₄, reached, rest⟩ := bind_eq_ok.1 reached
      obtain ⟨w₁, w₂, w₃, prepared, encoded, formatted, marked⟩ := untilOutput_eq_ok reached
      obtain ⟨given, w₅, isPath, rest⟩ := bind_eq_ok.1 rest
      obtain ⟨record, w₆, read, returned⟩ := bind_eq_ok.1 rest
      cases returned
      rw [convert_eq_stages]
      apply failed_of_second prepared
      apply failed_of_second encoded
      unfold finish
      apply failed_of_second formatted
      apply failed_of_second marked
      apply failed_of_first
      apply failed_writeIf set
      apply failed_of_second isPath
      apply failed_of_second read
      exact failed_of_first failed
  | components set reached =>
      obtain ⟨ready, w₄, reached, rest⟩ := bind_eq_ok.1 reached
      obtain ⟨w₁, w₂, w₃, prepared, encoded, formatted, marked⟩ := untilOutput_eq_ok reached
      obtain ⟨schemaFiles, w₅, schema, returned⟩ := bind_eq_ok.1 rest
      cases returned
      rw [convert_eq_stages]
      apply failed_of_second prepared
      apply failed_of_second encoded
      unfold finish
      apply failed_of_second formatted
      apply failed_of_second marked
      apply failed_of_second schema
      apply failed_of_first
      exact failed_writeIf set failed

end Stages

/-!
### The whole run
-/

section Whole

variable {s : Settings} {inputs : List String} {files : Workspace} {before w : World} {path : Value}
  {text : String}

theorem keeps_loadInputs (s : Settings) (inputs : List String) (files : Workspace) :
    KeepsOthers s files ResourceSet [] (loadInputs s inputs) := by
  apply keeps_of_idle
  intro w
  cases wanted : s.output.truthy with
  | true =>
      obtain ⟨log, run⟩ := start_loadInputs wanted inputs w
      exact ⟨log, by rw [run]⟩
  | false =>
      refine ⟨w.log, ?_⟩
      rw [start_loadInputs_of_unset wanted]

theorem keeps_convert (apart : Apart s files) (inputs : List String) :
    KeepsOthers s files Report (protocol s) (convert s inputs) := by
  intro w start
  rcases start_convert s inputs w with ⟨_, run⟩ |
    ⟨wanted, log, ⟨e, _, run⟩ | ⟨resources, _, run⟩⟩
  · rw [run]
    exact .of_same start rfl rfl
  · rw [run]
    exact .of_same start rfl rfl
  · rw [run]
    have logged : Keeps s files w { w with log } := .of_same start rfl rfl
    exact logged.trans ((keeps_parts apart).produce wanted resources _ (logged.undisturbed start))

theorem keeps_untilTypeFile (apart : Apart s files) (inputs : List String) :
    KeepsOthers s files Derived (derivation s) (untilTypeFile s inputs) := by
  have parts := keeps_parts apart
  unfold untilTypeFile
  apply parts.after (keeps_loadInputs s inputs files)
  exact fun resources => parts.derive resources

theorem keeps_prepare (apart : Apart s files) (inputs : List String) :
    KeepsOthers s files Prepared (derivation s ++ layout s.typeFile) (prepare s inputs) := by
  have parts := keeps_parts apart
  rw [prepare_eq_halves]
  apply parts.after (keeps_loadInputs s inputs files)
  intro resources
  apply parts.bind (parts.derive resources)
  intro derived
  apply parts.followed (parts.typeFile derived.type)
  exact fun typeFiles => parts.after (parts.note _) fun _ => parts.pure _

theorem keeps_untilOutput (apart : Apart s files) (wanted : s.output.truthy = true)
    (inputs : List String) : KeepsOthers s files Prepared
      ((derivation s ++ layout s.typeFile) ++ [.encode, .format s.output])
      (untilOutput s inputs) := by
  have parts := keeps_parts apart
  have generated : s.output ∈ s.generatedFiles := by simp [Settings.generatedFiles]
  unfold untilOutput
  apply parts.bind (keeps_prepare apart inputs)
  intro ready
  apply @Composes.bind _ parts.toComposes _ _ [.encode] [.format s.output] _ _
    (parts.encodeRecord ready.derived)
  intro _
  apply parts.followed (parts.format s.output generated wanted)
  intro _
  apply parts.after (parts.addBanner s.output generated wanted)
  exact fun _ => parts.pure ready

theorem wanted_of_loadInputs {resources : ResourceSet}
    (loaded : (loadInputs s inputs).start before = (.ok resources, w)) :
    s.output.truthy = true := by
  cases wanted : s.output.truthy with
  | true => rfl
  | false =>
      rw [start_loadInputs_of_unset wanted] at loaded
      cases loaded

theorem wanted_of_untilOutput {ready : Prepared}
    (reached : (untilOutput s inputs).start before = (.ok ready, w)) :
    s.output.truthy = true := by
  obtain ⟨w₁, w₂, w₃, prepared, -⟩ := untilOutput_eq_ok reached
  rw [prepare_eq_halves] at prepared
  obtain ⟨resources, w₄, loaded, -⟩ := bind_eq_ok.1 prepared
  exact wanted_of_loadInputs loaded

/-- A run keeps what is not its own up to each file that it replaces. -/
theorem Replaces.keeps (apart : Apart s files) (start : Undisturbed s files before)
    (reached : Replaces s inputs before path text w) : Keeps s files before w := by
  have parts := keeps_parts apart
  cases reached with
  | type set reached =>
      have kept := keeps_untilTypeFile apart inputs before start
      rwa [reached] at kept
  | @schema text w set reached =>
      obtain ⟨ready, w₁, reached, rest⟩ := bind_eq_ok.1 reached
      have kept := keeps_untilOutput apart (wanted_of_untilOutput reached) inputs before start
      rw [reached] at kept
      have reads := parts.after parts.outputPath fun path => parts.followed
        (parts.readFile (Path.tidy path)) fun record =>
          parts.pure (schemaText ready.derived.type record)
      have later := reads w₁ (kept.undisturbed start)
      rw [rest] at later
      exact kept.trans later
  | components set reached =>
      obtain ⟨ready, w₁, reached, rest⟩ := bind_eq_ok.1 reached
      have kept := keeps_untilOutput apart (wanted_of_untilOutput reached) inputs before start
      rw [reached] at kept
      have writes := parts.followed (parts.schemaFile ready.derived.type) fun schemaFiles =>
        parts.pure ready
      have later := writes w₁ (kept.undisturbed start)
      rw [rest] at later
      exact kept.trans later

/-- A run changes no file but those that its settings name, the record beside the output, and those
that its commands write, and it leaves no temporary file. If it fails to replace a file or to put a
banner in front of one, everything is as it was before that step. -/
theorem own_files_only
    (free : ∀ target, .text target ∈ s.replacedFiles → target ≠ "" → IsFree before target)
    (apart : Apart s before.files) :
    let after := ((convert s inputs).start before).2
    IsClear s before.files after.files ∧
      (∃ used, before.replies = used ++ after.replies ∧
        ∀ p, after.files.tree.text? p ≠ before.files.tree.text? p →
          IsOwn s before.files p ∨
            ∃ reply ∈ used, reply.Accounts before.files p (after.files.tree.text? p)) ∧
      (∀ path text w, Replaces s inputs before path text w → ∀ e w',
        (replaceFile path text).start w = (.error e, w') →
          w' = w ∧ (convert s inputs).start before = (.error e, w)) ∧
      ∀ path banner w e w', (addBanner path banner).start w = (.error e, w') → w' = w := by
  intro after
  have start : Undisturbed s before.files before := undisturbed_of_free free
  have kept := keeps_convert apart inputs before start
  refine ⟨kept.clear, kept.used, ?_, ?_⟩
  · intro path text w reached e w' failed
    have undisturbed := (reached.keeps apart start).undisturbed start
    obtain ⟨replaced, set⟩ := reached.replaced
    have unchanged : w' = w := by
      rcases replaceFile_whole text fun given => absent_of_clear undisturbed replaced set with
        ⟨fault, run⟩ | ⟨given, left, _, run, _⟩
      · cases run.symm.trans failed
        rfl
      · cases run.symm.trans failed
    subst unchanged
    exact ⟨rfl, reached.ends failed⟩
  · intro path banner w e w' failed
    rcases addBanner_whole w path banner with ⟨fault, run⟩ | ⟨given, old, left, _, _, run, _⟩
    · cases run.symm.trans failed
      rfl
    · cases run.symm.trans failed

/-! A run whose summary cannot be written, as there is a directory in its place. -/

/-- A file for the type, and one for the summary. -/
def twoFiles (typeFile : String) : Settings :=
  { Settings.default with
    output := .text "out.dhall"
    typeSource := .schemaPackage
    typeFile := .text typeFile
    componentsFile := .text "c" }

/-- No command fails, and the second one writes the output. -/
def occupied : World :=
  { failingEncoder [("c", .directory [])] with
    replies := [.finished [] 0 "" "", .finished [("out.dhall", "\x7b=\x7d")] 0 "" "",
      .finished [] 0 "" ""] }

theorem named_twoFiles {typeFile target : String}
    (named : .text target ∈ (twoFiles typeFile).namedFiles) :
    target = typeFile ∨ target = "out.dhall" ∨ target = "c" := by
  have listed : Value.text target ∈
      [.text typeFile, .text "out.dhall", (.null : Value), .text "c"] := named
  simpa using listed

theorem isFree_occupied {target : String} {p : Place}
    (place : occupied.files.pendingPlace target = p)
    (absent : occupied.files.tree.text? p = none) (other : p ≠ ["vfs", "out.dhall"]) :
    IsFree occupied target := by
  have written : occupied.files.writtenPlace "out.dhall" = ["vfs", "out.dhall"] := by decide
  refine ⟨by rw [place, absent], ?_⟩
  rintro reply member ⟨entry, listed, same⟩
  simp only [occupied, List.mem_cons, List.not_mem_nil, or_false] at member
  rcases member with rfl | rfl | rfl
  · cases listed
  · rw [List.mem_singleton.1 listed, written, place] at same
    exact other same
  · cases listed

/-- The temporary files of such a run would be where there is nothing. -/
theorem free_occupied {typeFile : String} (free : IsFree occupied typeFile) {target : String}
    (named : .text target ∈ (twoFiles typeFile).namedFiles) : IsFree occupied target := by
  rcases named_twoFiles named with rfl | rfl | rfl
  · exact free
  · exact @isFree_occupied _ ["vfs", "out.dhall.kubedhall.tmp"] (by decide) rfl (by decide)
  · exact @isFree_occupied _ ["vfs", "c.kubedhall.tmp"] (by decide) rfl (by decide)

/-- No temporary file is left of the summary. -/
theorem own_files_only_occupied :
    (∀ target, .text target ∈ (twoFiles "t").replacedFiles → target ≠ "" →
        IsFree occupied target) ∧
      Apart (twoFiles "t") occupied.files ∧
      ((convert (twoFiles "t") ["m"]).start occupied).2.files.tree.text?
        ["vfs", "c.kubedhall.tmp"] = none := by
  have ofType : occupied.files.pendingPlace "t" = ["vfs", "t.kubedhall.tmp"] := by decide
  have ofOutput : occupied.files.pendingPlace "out.dhall" = ["vfs", "out.dhall.kubedhall.tmp"] := by
    decide
  have ofSummary : occupied.files.pendingPlace "c" = ["vfs", "c.kubedhall.tmp"] := by decide
  have free : ∀ target, .text target ∈ (twoFiles "t").replacedFiles → target ≠ "" →
      IsFree occupied target := fun target replaced _ =>
    free_occupied (isFree_occupied ofType rfl (by decide)) (Settings.named_of_replaced replaced)
  have apart : Apart (twoFiles "t") occupied.files := by
    rintro path replaced _ ⟨target, pending, _, same⟩
    have places : occupied.files.pendingPlace target ∈
        [["vfs", "t.kubedhall.tmp"], ["vfs", "out.dhall.kubedhall.tmp"],
          ["vfs", "c.kubedhall.tmp"]] := by
      rcases named_twoFiles (Settings.named_of_replaced pending) with rfl | rfl | rfl
      · rw [ofType]
        decide
      · rw [ofOutput]
        decide
      · rw [ofSummary]
        decide
    rw [← same] at places
    rcases named_twoFiles (Settings.named_of_replaced replaced) with rfl | rfl | rfl
    · exact absurd places (by decide)
    · exact absurd places (by decide)
    · exact absurd places (by decide)
  refine ⟨free, apart, ?_⟩
  obtain ⟨clear, -⟩ := @own_files_only _ ["m"] _ free apart
  apply clear
  exact ⟨"c", by simp [Settings.replacedFiles, twoFiles], by decide, ofSummary.symm⟩

/-- The run comes to its summary, which is not written, and then the file of the type is gone. -/
def losesTypeFile (typeFile : String) : Bool :=
  let s := twoFiles typeFile
  let p := occupied.files.place typeFile
  match (untilComponentsFile s ["m"]).start occupied with
  | (.ok ready, w) =>
      let summary := yamlText (Components.summarize ready.derived.data)
      match (replaceFile s.componentsFile summary).start w with
      | (.error _, w') => w.files.tree.text? p = some banner && w'.files.tree.text? p = none
      | (.ok _, _) => false
  | (.error _, _) => false

/-- A file of the run that has the name of a temporary one is lost when another file is not
replaced. -/
theorem type_file_lost :
    ∃ (s : Settings) (inputs : List String) (before w w' : World) (path : Value) (text : String)
      (e : RunError) (p : Place),
      (∀ target, .text target ∈ s.namedFiles → target ≠ "" → IsFree before target) ∧
        Replaces s inputs before path text w ∧
        (replaceFile path text).start w = (.error e, w') ∧
        w.files.tree.text? p = some banner ∧ w'.files.tree.text? p = none := by
  have typeFree : IsFree occupied "c.kubedhall.tmp" :=
    @isFree_occupied _ ["vfs", "c.kubedhall.tmp.kubedhall.tmp"] (by decide) rfl (by decide)
  have loses : losesTypeFile "c.kubedhall.tmp" = true := by decide +kernel
  unfold losesTypeFile at loses
  dsimp only at loses
  split at loses
  · next ready w reached =>
    split at loses
    · next e w' failed =>
      obtain ⟨there, gone⟩ : _ ∧ _ := by simpa using loses
      exact ⟨_, ["m"], occupied, w, w', _, _, e, _,
        fun target named _ => free_occupied typeFree named, .components rfl reached, failed, there,
        gone⟩
    · cases loses
  · cases loses

end Whole

end Conversion

end TypedManifests
