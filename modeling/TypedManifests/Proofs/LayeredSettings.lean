/-
Module: TypedManifests.Proofs.LayeredSettings
Purpose: What layers of settings come to. A check accepts options as the settings that show them, so
  two layers one after the other come to the same as one that prefers the later values, and what
  the check sees to holds after every run of layers. Two things are not seen to: a timeout that is
  not a number, and failures that are no refusals.
Main exports: Settings.Shows, Settings.checked_check, Settings.merged_eq_ok_iff,
  Settings.merged_unexpected_iff, Settings.merged_layers, Settings.Reached, Settings.reached_valid
-/
import TypedManifests.CommandLine.Program
import TypedManifests.Proofs.NumberRange

namespace TypedManifests

open CommandLine.RequestError (expectsSettings)

/-!
### Reading the values of options
-/

namespace Value

/-- A value lists texts if it is made of them. -/
theorem texts?_eq_some_iff {v : Value} {texts : List String} :
    v.texts? = some texts ↔ v = ofTexts texts := by
  cases v with
  | list items =>
      rw [texts?, ofTexts, list.injEq]
      induction items generalizing texts with
      | nil => cases texts <;> simp
      | cons item rest ih =>
          cases item <;> cases texts <;>
            simp [List.mapM_cons, text?, Option.bind_eq_some_iff, ih]
          exact and_comm
  | _ => simp [texts?, ofTexts]

end Value

theorem TypeSource.ofValue?_eq_some_iff {v : Value} {source : TypeSource} :
    ofValue? v = some source ↔ v = .text source.text := by
  rw [ofValue?, all]
  cases source <;> cases v <;> simp [List.find?, Value.isTextOf, text] <;> grind

namespace Binary64

/-- A number above zero. -/
def Positive : Binary64 → Prop
  | .nan => False
  | .infinite negative => negative = false
  | .finite negative mantissa _ => negative = false ∧ mantissa ≠ 0

theorem isPositiveOrNan_iff {x : Binary64} :
    x.isPositiveOrNan = true ↔ x = .nan ∨ x.Positive := by
  cases x <;> simp [isPositiveOrNan, Positive]

end Binary64

namespace Settings

variable {options : SettingName → Value} {layer : SettingsLayer} {s t : Settings}

theorem textsOf_cases (options : SettingName → Value) (name : SettingName) :
    textsOf options name = .error (.notTexts name) ∨
      ∃ texts, textsOf options name = .ok texts ∧ options name = .ofTexts texts := by
  rw [textsOf]
  cases listed : (options name).texts? with
  | none => exact Or.inl rfl
  | some texts => exact Or.inr ⟨texts, rfl, Value.texts?_eq_some_iff.1 listed⟩

/-- Only an integer is too large for a timeout, since a text or a number beyond the range is read as
infinite. -/
theorem seconds_tooLarge_iff {v : Value} :
    seconds v = .error .timeoutTooLarge ↔
      ∃ i, v = .int i ∧ Binary64.overflowLimit ≤ i.natAbs := by
  cases v with
  | int i =>
      simp only [← Binary64.ofInt_eq_infinite_iff, Value.int.injEq, exists_eq_left', seconds]
      cases Binary64.ofInt i <;> simp
  | text text =>
      rw [seconds]
      cases Number.ofText? text <;> simp
  | _ => simp [seconds]

/-- Reading a timeout fails in no other way than these two. -/
theorem seconds_eq_error {v : Value} {e : SettingsError} (fault : seconds v = .error e) :
    e = .timeoutTooLarge ∨ e = .timeoutNotANumber v := by
  cases v with
  | int i =>
      rw [seconds] at fault
      cases number : Binary64.ofInt i <;> rw [number] at fault <;> cases fault
      exact Or.inl rfl
  | text text =>
      rw [seconds] at fault
      cases number : Number.ofText? text <;> rw [number] at fault <;> cases fault
      exact Or.inr rfl
  | bool b => cases fault
  | float x => cases fault
  | _ =>
      cases fault
      exact Or.inr rfl

/-!
### What a check accepts
-/

/-- The settings show the options as they are, with the timeout read as a number that is not below
or at zero. -/
structure Shows (s : Settings) (options : SettingName → Value) : Prop where
  value : ∀ name, name ≠ .timeout → s.value name = options name
  seconds : seconds (options .timeout) = .ok s.timeout
  positive : s.timeout.isPositiveOrNan = true

theorem Shows.of_value
    (value : ∀ name, s.value name = if name = .timeout then .float s.timeout else options name)
    (seconds : Settings.seconds (options .timeout) = .ok s.timeout)
    (positive : s.timeout.isPositiveOrNan = true) : s.Shows options :=
  ⟨fun name untimed => (value name).trans (if_neg untimed), seconds, positive⟩

/-- What a check can come to. -/
inductive Checked (options : SettingName → Value) : Except SettingsError Settings → Prop where
  | badTypeSource : Checked options (.error (.badTypeSource (options .typeSource)))
  | badTimeout {e : SettingsError} (source : TypeSource)
      (known : options .typeSource = .text source.text)
      (fault : seconds (options .timeout) = .error e) : Checked options (.error e)
  | notPositive : Checked options (.error .timeoutNotPositive)
  | notTexts (name : SettingName) : Checked options (.error (.notTexts name))
  | accepted {s : Settings} (shows : s.Shows options) : Checked options (.ok s)

theorem checked_check (options : SettingName → Value) : Checked options (check options) := by
  rw [check]
  cases source : TypeSource.ofValue? (options .typeSource) with
  | none => exact .badTypeSource
  | some typeSource =>
  have known := TypeSource.ofValue?_eq_some_iff.1 source
  cases given : seconds (options .timeout) with
  | error e => exact .badTimeout typeSource known given
  | ok timeout =>
  cases positive : timeout.isPositiveOrNan with
  | false =>
      simp only [bind, Except.bind, positive]
      exact .notPositive
  | true =>
  simp only [bind, Except.bind, positive, Bool.not_true, Bool.false_eq_true, if_false]
  obtain fault | ⟨ignore, isIgnore, ignored⟩ := textsOf_cases options .ignore
  · simpa only [fault] using .notTexts _
  obtain fault | ⟨keyFields, isKeyFields, keyed⟩ := textsOf_cases options .keyFields
  · simpa only [isIgnore, fault] using .notTexts _
  obtain fault | ⟨imageFields, isImageFields, imaged⟩ := textsOf_cases options .imageFields
  · simpa only [isIgnore, isKeyFields, fault] using .notTexts _
  simp only [isIgnore, isKeyFields, isImageFields]
  refine .accepted ⟨fun name untimed => ?_, given, positive⟩
  cases name with
  | timeout => exact absurd rfl untimed
  | typeSource => exact known.symm
  | ignore => exact ignored.symm
  | keyFields => exact keyed.symm
  | imageFields => exact imaged.symm
  | _ => rfl

theorem Shows.check_eq (shows : s.Shows options) : check options = .ok s := by
  obtain ⟨value, seconds, positive⟩ := shows
  have source := TypeSource.ofValue?_eq_some_iff.2 (value .typeSource nofun).symm
  have texts (name : SettingName) {texts : List String} (listed : options name = .ofTexts texts) :
      textsOf options name = .ok texts := by
    rw [textsOf, Value.texts?_eq_some_iff.2 listed]
  simp only [check, bind, Except.bind, source, seconds, positive,
    texts .ignore (value .ignore nofun).symm, texts .keyFields (value .keyFields nofun).symm,
    texts .imageFields (value .imageFields nofun).symm, ← value .output nofun,
    ← value .typeFile nofun, ← value .schemaFile nofun, ← value .componentsFile nofun,
    ← value .schemaUrl nofun, ← value .strengthen nofun, ← value .imageDigest nofun]
  rfl

/-- Options are accepted as the settings that show them. -/
theorem check_eq_ok_iff : check options = .ok s ↔ s.Shows options := by
  constructor
  · intro accepted
    have checked := checked_check options
    rw [accepted] at checked
    cases checked with
    | accepted shows => exact shows
  · exact Shows.check_eq

/-- A timeout is looked at right after the type source. -/
theorem check_eq_error {source : TypeSource} {e : SettingsError}
    (known : options .typeSource = .text source.text)
    (fault : seconds (options .timeout) = .error e) : check options = .error e := by
  rw [check, TypeSource.ofValue?_eq_some_iff.2 known, fault]
  rfl

/-- A check fails with what is no refusal if the timeout is an integer that is too large, and the
type source, which is looked at before, is none to be refused. -/
theorem check_unexpected_iff :
    (∃ e, check options = .error e ∧ expectsSettings e = false) ↔
      (∃ source : TypeSource, options .typeSource = .text source.text) ∧
        ∃ i, options .timeout = .int i ∧ Binary64.overflowLimit ≤ i.natAbs := by
  rw [← seconds_tooLarge_iff]
  constructor
  · rintro ⟨e, failed, unexpected⟩
    have checked := checked_check options
    rw [failed] at checked
    cases checked with
    | badTimeout source known fault =>
        rcases seconds_eq_error fault with rfl | rfl
        · exact ⟨⟨source, known⟩, fault⟩
        · cases unexpected
    | _ => cases unexpected
  · rintro ⟨⟨source, known⟩, fault⟩
    exact ⟨.timeoutTooLarge, check_eq_error known fault, rfl⟩

/-!
### One layer
-/

/-- Every name in the layer is that of an option. -/
def Known (layer : SettingsLayer) : Prop :=
  ∀ name ∈ layer.map Prod.fst, SettingName.ofText? name ≠ none

instance (layer : SettingsLayer) : Decidable (Known layer) :=
  inferInstanceAs (Decidable (∀ name ∈ layer.map Prod.fst, SettingName.ofText? name ≠ none))

/-- The value that a layer puts in the place of an option's own; null is put in no place. -/
def overriding? (layer : SettingsLayer) (name : SettingName) : Option Value :=
  match given? layer name with
  | some .null => none
  | value => value

theorem mem_unknownNames {name : String} :
    name ∈ unknownNames layer ↔
      name ∈ layer.map Prod.fst ∧ SettingName.ofText? name = none := by
  rw [unknownNames, List.mem_mergeSort, List.mem_eraseDups, List.mem_filter,
    Option.isNone_iff_eq_none]

theorem unknownNames_eq_nil_iff : unknownNames layer = [] ↔ Known layer := by
  simp only [List.eq_nil_iff_forall_not_mem, mem_unknownNames, not_and, Known, ne_eq]

theorem Known.ownName_notMem (known : Known layer) : ownName ∉ layer.map Prod.fst :=
  fun named => known ownName named (by decide)

theorem Known.merged_eq (known : Known layer) (s : Settings) :
    s.merged layer = check fun name => (overriding? layer name).getD (s.value name) := by
  rw [merged, if_neg known.ownName_notMem, unknownNames_eq_nil_iff.2 known]
  refine congrArg check (funext fun name => ?_)
  rw [overriding?]
  rcases given? layer name with _ | ⟨_ | _⟩ <;> rfl

/-- A layer that names the settings themselves fails, whatever else is in it. -/
theorem merged_ownName (s : Settings) (named : ownName ∈ layer.map Prod.fst) :
    s.merged layer = .error .ownName :=
  if_pos named

/-- A layer with other names that no option has is refused, and all of these names are told. -/
theorem merged_unknown (s : Settings) (unnamed : ownName ∉ layer.map Prod.fst)
    (unknown : ¬ Known layer) : s.merged layer = .error (.unknownOptions (unknownNames layer)) := by
  rw [merged, if_neg unnamed]
  split
  · next none => exact absurd (unknownNames_eq_nil_iff.1 none) unknown
  · rfl

theorem merged_eq_ok_iff :
    s.merged layer = .ok t ↔
      Known layer ∧ t.Shows fun name => (overriding? layer name).getD (s.value name) := by
  by_cases known : Known layer
  · rw [known.merged_eq, check_eq_ok_iff]
    simp [known]
  · simp only [known, false_and, iff_false]
    by_cases named : ownName ∈ layer.map Prod.fst
    · simp [merged_ownName s named]
    · simp [merged_unknown s named known]

/-- A layer fails with what is no refusal if it names the settings themselves, or if all that it
names are options and its timeout is an integer that is too large, unless its type source is
refused first. -/
theorem merged_unexpected_iff :
    (∃ e, s.merged layer = .error e ∧ expectsSettings e = false) ↔
      ownName ∈ layer.map Prod.fst ∨
        Known layer ∧
          (∀ v, overriding? layer .typeSource = some v →
            ∃ source : TypeSource, v = .text source.text) ∧
          ∃ i, given? layer .timeout = some (.int i) ∧ Binary64.overflowLimit ≤ i.natAbs := by
  by_cases named : ownName ∈ layer.map Prod.fst
  · simp [merged_ownName s named, named, expectsSettings]
  by_cases known : Known layer
  · rw [known.merged_eq, check_unexpected_iff]
    have own : ∃ source : TypeSource, s.value .typeSource = .text source.text := ⟨_, rfl⟩
    simp only [named, known, true_and, false_or]
    refine and_congr ?_ (exists_congr fun i => and_congr_left' ?_)
    · cases overriding? layer .typeSource <;> simp [own]
    · rw [overriding?]
      rcases given? layer .timeout with _ | ⟨_ | _⟩ <;> simp [value]
  · simp [merged_unknown s named known, named, known, expectsSettings]

/-!
### Layers upon each other
-/

theorem given?_of_overriding? {name : SettingName} {v : Value}
    (given : overriding? layer name = some v) : given? layer name = some v := by
  rw [overriding?] at given
  split at given
  · cases given
  · exact given

/-- Values put over settings are put over what these settings show: the timeout has been read as a
number, and is read as the same number again. -/
theorem Shows.over {put : SettingName → Option Value} (below : t.Shows options)
    (above : s.Shows fun name => (put name).getD (t.value name)) :
    s.Shows fun name => (put name).getD (options name) := by
  refine ⟨fun name untimed => ?_, ?_, above.positive⟩
  · rw [above.value name untimed, below.value name untimed]
  · have seconds := above.seconds
    cases given : put .timeout with
    | some v =>
        rw [given] at seconds
        exact seconds
    | none =>
        rw [given] at seconds
        exact below.seconds.trans seconds

/-- A layer that gives what `b` gives, and what `a` gives where `b` gives nothing or null, puts the
same in place as both do. -/
theorem overriding?_of_given? {a b ab : SettingsLayer} {name : SettingName}
    (given : given? ab name = (overriding? b name).or (given? a name)) :
    overriding? ab name = (overriding? b name).or (overriding? a name) := by
  rw [overriding?, given, overriding?, overriding?]
  rcases given? b name with _ | ⟨_ | _⟩ <;> rfl

/-- Two layers one after the other come to the same as every layer that gives each option the later
value, or the earlier one where the later layer gives none or null; the settings then show the
later value, else the earlier one, else that from before. A layer with a name that no option has is
refused, whatever the values are, and told apart from one that names the settings themselves. -/
theorem merged_layers (s : Settings) :
    (∀ a b t u, s.merged a = .ok t → t.merged b = .ok u →
      (u.Shows fun name => (overriding? b name).getD ((overriding? a name).getD (s.value name))) ∧
      ∀ ab, Known ab → (∀ name, given? ab name = (overriding? b name).or (given? a name)) →
        s.merged ab = .ok u) ∧
    ∀ layer, ¬ Known layer →
      if ownName ∈ layer.map Prod.fst then s.merged layer = .error .ownName
      else ∃ names, s.merged layer = .error (.unknownOptions names) ∧
        ∀ name, name ∈ names ↔ name ∈ layer.map Prod.fst ∧ SettingName.ofText? name = none := by
  refine ⟨fun a b t u first second => ?_, fun layer unknown => ?_⟩
  · obtain ⟨knownA, showsA⟩ := merged_eq_ok_iff.1 first
    obtain ⟨knownB, showsB⟩ := merged_eq_ok_iff.1 second
    have shows := showsA.over showsB
    refine ⟨shows, fun ab known given => merged_eq_ok_iff.2 ⟨known, ?_⟩⟩
    simpa only [fun name => overriding?_of_given? (given name), Option.getD_or] using shows
  · split
    · next named => exact merged_ownName s named
    · next unnamed => exact ⟨_, merged_unknown s unnamed unknown, fun name => mem_unknownNames⟩

/-- A timeout that is given and then left alone, a value given twice, and a name that no option
has. -/
theorem merged_layers_twice :
    let a : SettingsLayer := [("timeout", .int 30), ("output", .text "a.dhall"),
      ("ignore", .ofTexts ["vendor"])]
    let b : SettingsLayer := [("timeout", .null), ("output", .text "b.dhall"),
      ("type_source", .text "k8s")]
    let ab : SettingsLayer := [("ignore", .ofTexts ["vendor"]), ("timeout", .int 30),
      ("type_source", .text "k8s"), ("output", .text "b.dhall")]
    let t : Settings :=
      { default with timeout := .ofInt 30, output := .text "a.dhall", ignore := ["vendor"] }
    let u : Settings := { t with output := .text "b.dhall", typeSource := .schemaPackage }
    let unknown : SettingsLayer := [("timeout", .int 30), ("colour", .null)]
    default.merged a = .ok t ∧ t.merged b = .ok u ∧ default.merged ab = .ok u ∧
      ¬ Known unknown ∧ ∃ names, default.merged unknown = .error (.unknownOptions names) := by
  intro a b ab t u unknown
  have first : default.merged a = .ok t :=
    merged_eq_ok_iff.2 ⟨by decide, .of_value (fun name => by cases name <;> rfl) rfl rfl⟩
  have second : t.merged b = .ok u :=
    merged_eq_ok_iff.2 ⟨by decide, .of_value (fun name => by cases name <;> rfl) rfl rfl⟩
  have unnamed : ¬ Known unknown := by decide
  obtain ⟨layered, refused⟩ := merged_layers default
  refine ⟨first, second, ?_, unnamed, ?_⟩
  · exact (layered a b t u first second).2 ab (by decide) fun name => by cases name <;> rfl
  · have told := refused unknown unnamed
    rw [if_neg (by decide)] at told
    exact told.imp fun _ => And.left

/-- A layer that names the settings themselves is not refused, though no option has that name. -/
theorem merged_self_unexpected :
    let layer : SettingsLayer := [("self", .null)]
    ¬ Known layer ∧ default.merged layer = .error .ownName ∧
      ¬ ∃ e, default.merged layer = .error e ∧ expectsSettings e = true := by
  intro layer
  have failed : default.merged layer = .error .ownName := merged_ownName default (by decide)
  refine ⟨by decide, failed, ?_⟩
  rintro ⟨e, isError, expected⟩
  rw [failed] at isError
  cases isError
  cases expected

/-!
### Runs of layers
-/

/-- The options without the layer's are at their defaults. -/
theorem ofOptions_eq_ok_iff :
    ofOptions layer = .ok s ↔
      Known layer ∧ s.Shows fun name => (given? layer name).getD (defaultValue name) := by
  rw [ofOptions, ← unknownNames_eq_nil_iff, ← check_eq_ok_iff]
  split
  · next none => simp [none]
  · next some => simpa using fun none => absurd none some

/-- The settings that stand after a run of layers: the first is put on the defaults, each other one
on the settings that stand, which stay if it fails. -/
inductive Reached : List SettingsLayer → Settings → Prop where
  | first {layer : SettingsLayer} {s : Settings} (accepted : ofOptions layer = .ok s) :
      Reached [layer] s
  | next {layers : List SettingsLayer} {layer : SettingsLayer} {s t : Settings}
      (before : Reached layers s) (accepted : s.merged layer = .ok t) :
      Reached (layers ++ [layer]) t
  | failed {layers : List SettingsLayer} {layer : SettingsLayer} {s : Settings} {e : SettingsError}
      (before : Reached layers s) (fault : s.merged layer = .error e) :
      Reached (layers ++ [layer]) s

/-- A timeout that is not a number was given as one. -/
theorem Reached.timeout_given {layers : List SettingsLayer} (run : Reached layers s)
    (isNan : s.timeout = .nan) :
    ∃ layer ∈ layers, ∃ v, given? layer .timeout = some v ∧ seconds v = .ok .nan := by
  induction run with
  | @first layer s accepted =>
      obtain ⟨_, shows⟩ := ofOptions_eq_ok_iff.1 accepted
      have read := shows.seconds
      rw [isNan] at read
      cases given : given? layer .timeout with
      | none =>
          rw [given] at read
          have number : Binary64.ofInt 180 = .nan := Except.ok.inj read
          exact absurd number (by decide +kernel)
      | some v => exact ⟨layer, List.mem_cons_self, v, given, by rwa [given] at read⟩
  | @next layers layer s t before accepted ih =>
      obtain ⟨_, shows⟩ := merged_eq_ok_iff.1 accepted
      have read := shows.seconds
      rw [isNan] at read
      cases given : overriding? layer .timeout with
      | none =>
          rw [given] at read
          obtain ⟨earlier, member, found⟩ := ih (Except.ok.inj read)
          exact ⟨earlier, List.mem_append_left _ member, found⟩
      | some v =>
          rw [given] at read
          exact ⟨layer, List.mem_append_right _ List.mem_cons_self, v,
            given?_of_overriding? given, read⟩
  | failed before fault ih =>
      obtain ⟨earlier, member, found⟩ := ih isNan
      exact ⟨earlier, List.mem_append_left _ member, found⟩

theorem Reached.positiveOrNan {layers : List SettingsLayer} (run : Reached layers s) :
    s.timeout.isPositiveOrNan = true := by
  induction run with
  | first accepted => exact (ofOptions_eq_ok_iff.1 accepted).2.positive
  | next before accepted ih => exact (merged_eq_ok_iff.1 accepted).2.positive
  | failed before fault ih => exact ih

/-- After every run of layers the type source is one of the two, the timeout is above zero unless a
layer gave what is not a number, and the three lists list texts. A layer that is put on them and not
accepted is refused, unless it names the settings themselves, or its timeout is an integer too large
for a number. -/
theorem reached_valid {layers : List SettingsLayer} (run : Reached layers s) :
    (s.value .typeSource = .text "infer" ∨ s.value .typeSource = .text "k8s") ∧
      (s.timeout.Positive ∨ s.timeout = .nan ∧
        ∃ layer ∈ layers, ∃ v, given? layer .timeout = some v ∧ seconds v = .ok .nan) ∧
      (∀ name ∈ [SettingName.ignore, .keyFields, .imageFields],
        ∃ texts, s.value name = .ofTexts texts) ∧
      ∀ layer, (∃ e, s.merged layer = .error e ∧ expectsSettings e = false) ↔
        ownName ∈ layer.map Prod.fst ∨
          Known layer ∧
            (∀ v, overriding? layer .typeSource = some v →
              ∃ source : TypeSource, v = .text source.text) ∧
            ∃ i, given? layer .timeout = some (.int i) ∧ Binary64.overflowLimit ≤ i.natAbs := by
  refine ⟨?_, ?_, ?_, fun layer => merged_unexpected_iff⟩
  · rw [value]
    cases s.typeSource with
    | infer => exact Or.inl rfl
    | schemaPackage => exact Or.inr rfl
  · rcases Binary64.isPositiveOrNan_iff.1 run.positiveOrNan with isNan | positive
    · exact Or.inr ⟨isNan, run.timeout_given isNan⟩
    · exact Or.inl positive
  · simp only [List.forall_mem_cons]
    exact ⟨⟨_, rfl⟩, ⟨_, rfl⟩, ⟨_, rfl⟩, nofun⟩

/-- A run with a layer that fails in between, and a timeout that is a number again. -/
theorem reached_valid_again :
    let layers : List SettingsLayer := [[("timeout", .float .nan)], [("ignore", .text "vendor")],
      [("timeout", .bool true), ("type_source", .text "k8s")]]
    let s : Settings := { default with timeout := .ofInt 1, typeSource := .schemaPackage }
    let tooLarge : SettingsLayer := [("timeout", .int Binary64.overflowLimit)]
    Reached layers s ∧ s.timeout.Positive ∧
      ∃ e, s.merged tooLarge = .error e ∧ expectsSettings e = false := by
  intro layers s tooLarge
  have first : Reached [[("timeout", .float .nan)]] { default with timeout := .nan } :=
    .first (ofOptions_eq_ok_iff.2
      ⟨by decide, .of_value (fun name => by cases name <;> rfl) rfl rfl⟩)
  have failed : Reached [[("timeout", .float .nan)], [("ignore", .text "vendor")]]
      { default with timeout := .nan } :=
    first.failed ((Known.merged_eq (by decide) _).trans rfl)
  have run : Reached layers s :=
    failed.next (merged_eq_ok_iff.2
      ⟨by decide, .of_value (fun name => by cases name <;> rfl) rfl rfl⟩)
  obtain ⟨_, positive, _, unexpected⟩ := reached_valid run
  have large := Nat.le_of_eq (Int.natAbs_natCast Binary64.overflowLimit).symm
  refine ⟨run, ?_, (unexpected tooLarge).2 (Or.inr ⟨by decide, nofun, _, rfl, large⟩)⟩
  rcases positive with positive | ⟨isNan, _⟩
  · exact positive
  · cases isNan

/-- Settings need not have a timeout above zero, and a layer that is not accepted need not be
refused. -/
theorem reached_not_a_number :
    let layers : List SettingsLayer := [[], [("timeout", .float .nan)]]
    let s : Settings := { default with timeout := .nan }
    let tooLarge : SettingsLayer := [("timeout", .int Binary64.overflowLimit)]
    Reached layers s ∧ ¬ s.timeout.Positive ∧
      s.merged tooLarge = .error .timeoutTooLarge ∧ expectsSettings .timeoutTooLarge = false := by
  intro layers s tooLarge
  have first : Reached [[]] default :=
    .first (ofOptions_eq_ok_iff.2
      ⟨by decide, .of_value (fun name => by cases name <;> rfl) rfl rfl⟩)
  have run : Reached layers s :=
    first.next (merged_eq_ok_iff.2
      ⟨by decide, .of_value (fun name => by cases name <;> rfl) rfl rfl⟩)
  refine ⟨run, nofun, ?_, rfl⟩
  have fault : seconds (.int Binary64.overflowLimit) = .error .timeoutTooLarge :=
    seconds_tooLarge_iff.2 ⟨_, rfl, Nat.le_of_eq (Int.natAbs_natCast _).symm⟩
  have source : s.value .typeSource = .text TypeSource.infer.text := rfl
  exact (Known.merged_eq (by decide) s).trans (check_eq_error source fault)

end Settings

end TypedManifests
