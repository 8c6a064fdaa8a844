/-
Module: TypedManifests.Proofs.CallProtocol
Purpose: The commands that a conversion calls, in their order, whatever the settings, the inputs,
  the files and the replies are.
Main exports: IsCall, Follows, Follows.append, MakesCalls, makesCalls_parts,
  Settings.writtenFiles, Conversion.convert_follows_protocol
-/
import Mathlib.Data.List.Forall2
import TypedManifests.Proofs.EncoderFailure
import TypedManifests.Proofs.RunParts

/-!
The settings fix which commands a conversion calls and in which order. A run makes these calls one
by one, as far as it gets: a call that fails is the last one, and so is the one before any other
failure. One step of a run is said to follow a list of calls if it makes a first part of them, and
all of them if it succeeds; steps that follow their lists one after the other follow the joined
list.
-/

namespace TypedManifests

/-!
### Calls and replies
-/

namespace Reply

/-- The command was there, ended in time, and reported no failure. -/
def succeeds : Reply → Bool
  | .finished _ status _ _ => status = 0
  | _ => false

theorem failure?_eq_none {timeout : Value} {command : List String} {reply : Reply} :
    reply.failure? timeout command = none ↔ reply.succeeds = true := by
  cases reply <;> simp [failure?, succeeds]

end Reply

/-- The reply to the call that is made after `index` others. -/
def World.replyTo (w : World) (index : Nat) : Reply := w.replies.getD index .missing

theorem World.replyTo_of_drop {w between : World} {count : Nat}
    (dropped : between.replies = w.replies.drop count) (index : Nat) :
    between.replyTo index = w.replyTo (count + index) := by
  simp [World.replyTo, dropped, List.getD_eq_getElem?_getD, List.getElem?_drop]

/-- What a call of a kind looks like: its command line, whether it is given an input, and its time
limit. -/
def IsCall (s : Settings) : CallKind → Call → Prop
  | .infer, call =>
      ∃ yaml, call = ⟨["yaml-to-dhall", "type"], some yaml, .float s.timeout⟩
  | .encode, call =>
      ∃ type output yaml, s.output = .text output ∧
        call = ⟨Conversion.encoderCommand type output, some yaml, .float s.timeout⟩
  | .format path, call =>
      ∃ file, path = .text file ∧ call = ⟨Run.formatCommand file, none, .null⟩

/-!
### Following a list of calls
-/

/-- Between two worlds the calls `made` were made, which are of the kinds given, from the first one
on. All but the last one succeeded. If the step that leads from one world to the other was made as a
`whole`, no call is left out and the last one succeeded too. -/
structure Follows (s : Settings) (kinds : List CallKind) (made : List Call) (w w' : World)
    (whole : Prop) : Prop where
  calls : w'.calls = w.calls ++ made
  replies : w'.replies = w.replies.drop made.length
  order : ∃ count, List.Forall₂ (IsCall s) (kinds.take count) made
  succeeded : ∀ index, index + 1 < made.length → (w.replyTo index).succeeds = true
  complete : whole → made.length = kinds.length ∧
    ∀ index < made.length, (w.replyTo index).succeeds = true

namespace Follows

variable {s : Settings} {kinds first second : List CallKind} {made later : List Call}
  {w between w' : World} {whole whole' : Prop}

/-- Nothing is called. -/
theorem silent (calls : w'.calls = w.calls) (replies : w'.replies = w.replies)
    (none : whole → kinds = []) : Follows s kinds [] w w' whole where
  calls := by rw [calls, List.append_nil]
  replies := replies
  order := ⟨0, List.Forall₂.nil⟩
  succeeded := by simp
  complete := by
    intro holds
    rw [none holds]
    simp

/-- A command is called. -/
theorem one {kind : CallKind} {call : Call} (isCall : IsCall s kind call)
    (calls : w'.calls = w.calls ++ [call]) (replies : w'.replies = w.replies.tail)
    (success : whole → w.reply.succeeds = true) : Follows s [kind] [call] w w' whole where
  calls := calls
  replies := by rw [replies, List.length_singleton, List.drop_one]
  order := ⟨1, List.Forall₂.cons isCall List.Forall₂.nil⟩
  succeeded := by simp
  complete := by
    intro holds
    constructor
    · rfl
    · intro index inside
      obtain rfl : index = 0 := by simpa using inside
      have succeeds := success holds
      rw [World.reply, List.headD_eq_head?_getD] at succeeds
      rwa [World.replyTo, List.getD_eq_getElem?_getD, ← List.head?_eq_getElem?]

/-- A step that ends the run leaves out the calls that would have come after it. -/
theorem stopped (follows : Follows s first made w w' whole) (second : List CallKind)
    (ended : ¬ whole') : Follows s (first ++ second) made w w' whole' where
  calls := follows.calls
  replies := follows.replies
  order := by
    obtain ⟨count, order⟩ := follows.order
    refine ⟨min count first.length, ?_⟩
    rwa [List.take_append_of_le_length (Nat.min_le_right _ _), ← List.take_take,
      List.take_length]
  succeeded := follows.succeeded
  complete := fun holds => absurd holds ended

/-- A step that is made as a whole, and then another one. -/
theorem append (follows : Follows s first made w between True)
    (rest : Follows s second later between w' whole) :
    Follows s (first ++ second) (made ++ later) w w' whole := by
  obtain ⟨same, all⟩ := follows.complete trivial
  have shift := World.replyTo_of_drop follows.replies
  constructor
  case calls => rw [rest.calls, follows.calls, List.append_assoc]
  case replies => rw [rest.replies, follows.replies, List.drop_drop, List.length_append]
  case order =>
    obtain ⟨count, order⟩ := follows.order
    obtain ⟨count', order'⟩ := rest.order
    have taken := order.length_eq
    rw [same, List.length_take] at taken
    rw [List.take_of_length_le (by omega)] at order
    refine ⟨first.length + count', ?_⟩
    rw [List.take_length_add_append]
    exact List.rel_append order order'
  case succeeded =>
    intro index inside
    rw [List.length_append] at inside
    by_cases early : index < made.length
    · exact all index early
    · have found := rest.succeeded (index - made.length) (by omega)
      rwa [shift, Nat.add_sub_cancel' (by omega)] at found
  case complete =>
    intro holds
    obtain ⟨same', all'⟩ := rest.complete holds
    constructor
    · rw [List.length_append, List.length_append, same, same']
    · intro index inside
      rw [List.length_append] at inside
      by_cases early : index < made.length
      · exact all index early
      · have found := all' (index - made.length) (by omega)
        rwa [shift, Nat.add_sub_cancel' (by omega)] at found

end Follows

/-- From every world the step follows the calls of these kinds, and makes all of them if it
succeeds. -/
def MakesCalls (s : Settings) (α : Type) (kinds : List CallKind) (run : Run α) : Prop :=
  ∀ w, ∃ made, Follows s kinds made w (run.start w).2 (∃ a, (run.start w).1 = .ok a)

theorem makesCalls_composes (s : Settings) : Composes (MakesCalls s) where
  pure := by
    intro α a w
    exact ⟨[], .silent rfl rfl fun _ => rfl⟩
  bind := by
    intro α β first second x f left right w
    obtain ⟨made, follows⟩ := left w
    rw [Run.start_bind]
    rcases run : x.start w with ⟨_ | a, between⟩
    · rw [run] at follows
      exact ⟨made, follows.stopped second (by simp)⟩
    · rw [run] at follows
      obtain ⟨later, rest⟩ := right a between
      have whole : Follows s first made w between True :=
        { follows with complete := fun _ => follows.complete ⟨a, rfl⟩ }
      exact ⟨made ++ later, whole.append rest⟩

/-- What works on files calls nothing. -/
theorem makesCalls_fileParts (s : Settings) : FileParts (MakesCalls s) fun _ => True where
  toComposes := makesCalls_composes s
  files := fun _ => ⟨[], .silent rfl rfl fun _ => rfl⟩
  setFiles := fun _ _ => ⟨[], .silent rfl rfl fun _ => rfl⟩
  fail := by
    intro α kinds e _ w
    exact ⟨[], .silent rfl rfl (by simp)⟩
  fileFault := fun _ => trivial
  notReplaced := fun _ => trivial
  noWriteAccess := fun _ => trivial

section Commands

variable {s : Settings} {kind : CallKind} {command : List Value} {stdin : Option String}
  {timeout : Value}

/-- A step that is not taken, as its command is not called. -/
theorem follows_uncalled {α : Type} {run : Run α} {w : World} {e : RunError}
    (ended : run.start w = (.error e, w)) :
    Follows s [kind] [] w (run.start w).2 (∃ a, (run.start w).1 = .ok a) := by
  rw [ended]
  exact .silent rfl rfl (by simp)

theorem makesCalls_call
    (isCall : ∀ texts, Value.textsFrom 0 command = .ok texts →
      IsCall s kind ⟨texts, stdin, timeout⟩) :
    MakesCalls s String [kind] (Run.call command stdin timeout) := by
  intro w
  rcases Run.uncalled_or_called w.host command with ⟨e, uncalled⟩ | ⟨texts, isTexts, starts⟩
  · exact ⟨[], follows_uncalled (Run.start_call_of_uncalled uncalled stdin timeout)⟩
  · refine ⟨[⟨texts, stdin, timeout⟩], ?_⟩
    rw [Run.start_call isTexts starts]
    apply Follows.one (isCall texts isTexts) rfl rfl
    rintro ⟨stdout, result⟩
    rw [← Reply.failure?_eq_none]
    cases ended : w.callFailure? timeout texts with
    | none => exact (World.callFailure?_eq_none ended).1
    | some e => simp [ended] at result

theorem makesCalls_inferType (s : Settings) (yaml : String) :
    MakesCalls s String [.infer] (Run.inferType (.float s.timeout) yaml) := by
  unfold Run.inferType
  apply (makesCalls_composes s).followed
  · apply makesCalls_call
    rintro _ ⟨⟩
    exact ⟨yaml, rfl⟩
  · exact fun stdout => (makesCalls_composes s).pure _

theorem makesCalls_format (s : Settings) (path : Value) :
    MakesCalls s Unit [.format path] (Run.format path) := by
  intro w
  rcases Run.format_cases path w with ⟨e, _, run⟩ | ⟨file, isText, ended⟩
  · exact ⟨[], follows_uncalled run⟩
  · have isCall : IsCall s (.format path) (Run.formatCall file) := ⟨file, isText, rfl⟩
    refine ⟨[Run.formatCall file], ?_⟩
    rcases ended with ⟨succeeded, run⟩ | ⟨e, run⟩
    · rw [run]
      exact .one isCall rfl rfl fun _ => Reply.failure?_eq_none.1 succeeded
    · rw [run]
      exact .one isCall rfl rfl (by simp)

/-- The encoder is called once, and what is done about a failure of it calls nothing. -/
theorem makesCalls_encodeRecord (s : Settings) (derived : Conversion.Derived) :
    MakesCalls s Unit [.encode] (Conversion.encodeRecord s derived) := by
  intro w
  rcases Conversion.encodeRecord_cases s derived w with ⟨e, _, run⟩ | ⟨output, isText, ended⟩
  · exact ⟨[], follows_uncalled run⟩
  · have isCall : IsCall s .encode (Conversion.encoderCall s derived output) :=
      ⟨_, output, _, isText, rfl⟩
    refine ⟨[Conversion.encoderCall s derived output], ?_⟩
    rcases ended with ⟨succeeded, run⟩ | ⟨fault, -, run⟩ | ⟨fault, run⟩ | ⟨e, files, log, -, run⟩
    · rw [run]
      exact .one isCall rfl rfl fun _ => Reply.failure?_eq_none.1 succeeded
    all_goals
      rw [run]
      exact .one isCall rfl rfl (by simp)

end Commands

theorem makesCalls_parts (s : Settings) : Parts (MakesCalls s) s where
  toComposes := makesCalls_composes s
  note := fun _ _ => ⟨[], .silent rfl rfl fun _ => rfl⟩
  infer := makesCalls_inferType s
  encodeRecord := makesCalls_encodeRecord s
  replaceFile := fun _ _ _ text =>
    (makesCalls_fileParts s).replaceFile text (fun _ _ => trivial) (fun _ _ _ => trivial)
      fun _ _ _ => trivial
  format := fun path _ _ => makesCalls_format s path
  addBanner := fun _ _ _ =>
    (makesCalls_fileParts s).addBanner _ (fun _ _ => trivial) fun _ _ _ => trivial
  outputPath := (makesCalls_fileParts s).ofExcept fun _ _ => trivial
  readFile := (makesCalls_fileParts s).readFile

/-!
### The whole run
-/

/-- The files that a run without failure writes, in their order. -/
def Settings.writtenFiles (s : Settings) : List Value := s.namedFiles.filter Value.truthy

namespace Conversion

open Run

variable {s : Settings} {inputs : List String} {w w' : World} {resources : ResourceSet}

theorem writeIf_eq_ok {path : Value} {write : Run Unit} {files : List Value}
    (run : (writeIf path write).start w = (.ok files, w')) :
    files = [path].filter Value.truthy := by
  unfold writeIf at run
  cases set : path.truthy with
  | true =>
      rw [set, if_pos rfl, bind_eq_ok] at run
      obtain ⟨_, _, _, returned⟩ := run
      cases returned
      simp [set]
  | false =>
      rw [set] at run
      cases run
      simp [set]

/-- A report lists the files that the settings name. -/
theorem written_of_produce (wanted : s.output.truthy = true) {report : Report}
    (run : (produce s resources).start w = (.ok report, w')) :
    report.written = s.writtenFiles := by
  unfold produce at run
  obtain ⟨derived, w₁, _, run⟩ := bind_eq_ok.1 run
  obtain ⟨typeFiles, w₂, typeFile, run⟩ := bind_eq_ok.1 run
  obtain ⟨_, w₃, _, run⟩ := bind_eq_ok.1 run
  obtain ⟨_, w₄, _, finished⟩ := bind_eq_ok.1 run
  obtain ⟨_, _, _, _, schemaFiles, componentFiles, _, _, schemaFile, componentsFile, _, written⟩ :=
    finish_eq_ok finished
  have output : [s.output] = [s.output].filter Value.truthy := by simp [wanted]
  rw [written, writeIf_eq_ok typeFile, writeIf_eq_ok schemaFile, writeIf_eq_ok componentsFile,
    output, ← List.filter_append, ← List.filter_append, ← List.filter_append]
  rfl

/-- The calls that a run makes are a first part of those that the settings fix, in their order; each
but the last one succeeded. -/
theorem convert_follows_protocol (s : Settings) (inputs : List String) (w : World) :
    let result := (convert s inputs).start w
    ∃ made : List Call,
      result.2.calls = w.calls ++ made ∧
        (∃ count, List.Forall₂ (IsCall s) ((protocol s).take count) made) ∧
        (∀ index, index + 1 < made.length → (w.replyTo index).succeeds = true) ∧
        (∀ report, result.1 = .ok report →
          made.length = (protocol s).length ∧
            (∀ index < made.length, (w.replyTo index).succeeds = true) ∧
            report.written = s.writtenFiles) ∧
        ∀ e, s.output.truthy = true → (loadedFrom s inputs w.files).2 = .error e →
          result.1 = .error (.load e) ∧ made = [] ∧ result.2.files = w.files := by
  rcases start_convert s inputs w with ⟨unset, run⟩ |
    ⟨wanted, log, ⟨e, loaded, run⟩ | ⟨resources, loaded, run⟩⟩
  · rw [run]
    refine ⟨[], (List.append_nil _).symm, ⟨0, .nil⟩, ?_, ?_, ?_⟩
    · simp
    · simp
    · simp [unset]
  · rw [run]
    refine ⟨[], (List.append_nil _).symm, ⟨0, .nil⟩, ?_, ?_, ?_⟩
    · simp
    · simp
    · intro fault _ same
      cases loaded.symm.trans same
      exact ⟨rfl, rfl, rfl⟩
  · rw [run]
    obtain ⟨made, follows⟩ := (makesCalls_parts s).produce wanted resources { w with log }
    refine ⟨made, follows.calls, follows.order, follows.succeeded, ?_, ?_⟩
    · intro report returned
      obtain ⟨all, succeeded⟩ := follows.complete ⟨report, returned⟩
      exact ⟨all, succeeded, written_of_produce wanted (Prod.ext returned rfl)⟩
    · intro fault _ failed
      cases loaded.symm.trans failed

end Conversion

end TypedManifests
