/-
Module: TypedManifests.Proofs.TimeLimits
Purpose: The time that the commands of a conversion may take: all but those that lay out a file are
  limited by the settings, and these are not limited at all.
Main exports: Call.isUnlimited, Settings.laidOutFiles, IsCall.limit, unlimited_of_calls,
  Conversion.only_layouts_unlimited, Conversion.layout_unlimited
-/
import TypedManifests.Proofs.CallProtocol

/-!
The kind of a call tells its limit. The calls of a run are a first part of those that the settings
fix, so the calls without a limit are told apart by their kinds: they are the layouts, one for each
generated file, in the order of the files.
-/

namespace TypedManifests

open Run

/-- The command may take any time. -/
def Call.isUnlimited (call : Call) : Bool := call.timeout matches .null

/-- The file that a call of this kind lays out. -/
def CallKind.laidOut? : CallKind → Option Value
  | .format path => some path
  | _ => none

/-- The files that a run without failure lays out, in their order. -/
def Settings.laidOutFiles (s : Settings) : List Value := s.generatedFiles.filter Value.truthy

section Kinds

variable {s : Settings} {kind : CallKind} {call : Call} {kinds : List CallKind} {made : List Call}

/-- A call is limited by the settings, or it lays out a file and is not limited. -/
theorem IsCall.limit (isCall : IsCall s kind call) :
    kind.laidOut? = none ∧ call.timeout = .float s.timeout ∨
      ∃ file, kind.laidOut? = some (.text file) ∧ call = formatCall file := by
  cases kind with
  | infer =>
      obtain ⟨yaml, rfl⟩ := isCall
      exact Or.inl ⟨rfl, rfl⟩
  | encode =>
      obtain ⟨type, output, yaml, _, rfl⟩ := isCall
      exact Or.inl ⟨rfl, rfl⟩
  | format path =>
      obtain ⟨file, rfl, rfl⟩ := isCall
      exact Or.inr ⟨file, rfl, rfl⟩

/-- Of the calls of some kinds those are not limited that lay out a file. -/
theorem unlimited_of_calls (calls : List.Forall₂ (IsCall s) kinds made) :
    (∀ call ∈ made, call.timeout = .float s.timeout ∨ call.timeout = .null) ∧
      ∃ files : List String, kinds.filterMap CallKind.laidOut? = files.map Value.text ∧
        made.filter Call.isUnlimited = files.map formatCall := by
  induction calls with
  | nil => exact ⟨by simp, [], rfl, rfl⟩
  | @cons kind call kinds made isCall _ ih =>
      obtain ⟨limits, files, laidOut, unlimited⟩ := ih
      rcases isCall.limit with ⟨other, limited⟩ | ⟨file, isLayout, rfl⟩
      · have passed : ¬ call.isUnlimited = true := by simp [Call.isUnlimited, limited]
        refine ⟨List.forall_mem_cons.2 ⟨Or.inl limited, limits⟩, files, ?_, ?_⟩
        · rwa [List.filterMap_cons_none other]
        · rwa [List.filter_cons_of_neg passed]
      · refine ⟨List.forall_mem_cons.2 ⟨Or.inr rfl, limits⟩, file :: files, ?_, ?_⟩
        · rw [List.filterMap_cons_some isLayout, laidOut, List.map_cons]
        · rw [List.filter_cons_of_pos rfl, unlimited, List.map_cons]

end Kinds

namespace Conversion

variable {s : Settings}

theorem laidOut_layout (path : Value) :
    (layout path).filterMap CallKind.laidOut? = [path].filter Value.truthy := by
  unfold layout
  cases set : path.truthy with
  | true => simp [set, CallKind.laidOut?]
  | false => simp [set]

theorem laidOut_protocol (wanted : s.output.truthy = true) :
    (protocol s).filterMap CallKind.laidOut? = s.laidOutFiles := by
  have derived : (derivation s).filterMap CallKind.laidOut? = [] := by
    unfold derivation
    cases s.typeSource <;> rfl
  have output : [s.output] = [s.output].filter Value.truthy := by simp [wanted]
  calc (protocol s).filterMap CallKind.laidOut?
      = [s.typeFile].filter Value.truthy ++ ([s.output] ++ [s.schemaFile].filter Value.truthy) := by
        simp [protocol, derived, laidOut_layout, CallKind.laidOut?, List.filterMap_cons]
    _ = s.laidOutFiles := by
        rw [output, ← List.filter_append, ← List.filter_append]
        rfl

/-- The calls of a run without a limit are those that lay out the generated files, one by one as far
as the run gets; the limit of all others is the one of the settings. -/
theorem only_layouts_unlimited (s : Settings) (inputs : List String) (w : World) :
    let result := (convert s inputs).start w
    ∃ (made : List Call) (files : List String),
      result.2.calls = w.calls ++ made ∧
        (∀ call ∈ made, call.timeout = .float s.timeout ∨ call.timeout = .null) ∧
        made.filter Call.isUnlimited = files.map formatCall ∧
        files.map Value.text <+: s.laidOutFiles ∧
        ∀ report, result.1 = .ok report → files.map Value.text = s.laidOutFiles := by
  rcases start_convert s inputs w with ⟨_, run⟩ |
    ⟨wanted, log, ⟨e, _, run⟩ | ⟨resources, _, run⟩⟩
  · rw [run]
    exact ⟨[], [], (List.append_nil _).symm, by simp, rfl, List.nil_prefix, by simp⟩
  · rw [run]
    exact ⟨[], [], (List.append_nil _).symm, by simp, rfl, List.nil_prefix, by simp⟩
  · rw [run]
    obtain ⟨made, follows⟩ := (makesCalls_parts s).produce wanted resources { w with log }
    obtain ⟨count, order⟩ := follows.order
    obtain ⟨limits, files, laidOut, unlimited⟩ := unlimited_of_calls order
    refine ⟨made, files, follows.calls, limits, unlimited, ?_, ?_⟩
    · rw [← laidOut, ← laidOut_protocol wanted]
      exact (List.take_prefix count _).filterMap _
    · intro report returned
      obtain ⟨all, _⟩ := follows.complete ⟨report, returned⟩
      have taken := order.length_eq
      rw [all, List.length_take] at taken
      rw [← laidOut, ← laidOut_protocol wanted, List.take_of_length_le (by omega)]

/-- Both commands succeed, and the first one writes the output. -/
def encoded : World :=
  { failingEncoder [("out", .directory [])] with
    replies := [.finished [("out/record.dhall", "\x7b=\x7d")] 0 "" "", .finished [] 0 "" ""] }

/-- The run returns, and there is a call in it that has no limit. -/
def leavesUnlimited : Bool :=
  match (convert ownDirectory ["m"]).start encoded with
  | (.ok _, w) => w.calls.any Call.isUnlimited
  | (.error _, _) => false

/-- Not every call of a run is limited by the settings. -/
theorem layout_unlimited :
    ∃ (s : Settings) (inputs : List String) (before after : World) (report : Report),
      before.calls = [] ∧ (convert s inputs).start before = (.ok report, after) ∧
        ∃ call ∈ after.calls, call.timeout ≠ .float s.timeout := by
  have leaves : leavesUnlimited = true := by decide +kernel
  unfold leavesUnlimited at leaves
  split at leaves
  · next report after run =>
    obtain ⟨call, made, unlimited⟩ := List.any_eq_true.1 leaves
    refine ⟨ownDirectory, ["m"], encoded, after, report, rfl, run, call, made, ?_⟩
    intro limited
    simp [Call.isUnlimited, limited] at unlimited
  · cases leaves

end Conversion

end TypedManifests
