/-
Module: TypedManifests.Proofs.VisibleDifference
Purpose: The difference of a type before and after strengthening shows a change if and only if there
  is one. Texts are compared line by line, and a line ends at characters that a quoted name may
  hold, so it does not suffice that different types print differently: where a type has changed, its
  text goes on with another character that ends no line.
Main exports: PartsWays, PartsWays.lines_ne, partsWays_print, lines_print_eq_iff,
  typeItems_difference, differenceItem_shows_change
-/
import TypedManifests.CommandLine.Program
import TypedManifests.Proofs.EqualLines
import TypedManifests.Proofs.HonestReport

namespace TypedManifests

/-!
### Texts that differ within a line
-/

namespace Text

/-- After a common beginning the texts go on with different characters that end no line. -/
def PartsWays (s t : String) : Prop :=
  ∃ common c d rest rest', s.toList = common ++ c :: rest ∧ t.toList = common ++ d :: rest' ∧
    c ≠ d ∧ isLineBreak c = false ∧ isLineBreak d = false

theorem PartsWays.behind {s t : String} (front : String) (parts : PartsWays s t) :
    PartsWays (front ++ s) (front ++ t) := by
  obtain ⟨common, c, d, rest, rest', eq, eq', apart⟩ := parts
  exact ⟨front.toList ++ common, c, d, rest, rest', by simp [eq], by simp [eq'], apart⟩

theorem PartsWays.before {s t : String} (parts : PartsWays s t) (back back' : String) :
    PartsWays (s ++ back) (t ++ back') := by
  obtain ⟨common, c, d, rest, rest', eq, eq', apart⟩ := parts
  exact ⟨common, c, d, rest ++ back.toList, rest' ++ back'.toList, by simp [eq], by simp [eq'],
    apart⟩

/-- The next character, unless it is the first one of a break that has two. -/
theorem linesFrom_cons {c : Char} {rest : List Char}
    (single : ∀ more, c = '\r' → rest = '\n' :: more → False) (line : List Char) :
    linesFrom line (c :: rest) =
      if isLineBreak c then line.reverse :: linesFrom [] rest else linesFrom (c :: line) rest := by
  rw [linesFrom]
  exact single

/-- What was read of a line is what the next line begins with. -/
theorem exists_linesFrom (line text : List Char) : line ≠ [] →
    ∃ more others, linesFrom line text = (line.reverse ++ more) :: others := by
  induction line, text using linesFrom.induct with
  | case1 line empty => simp_all
  | case2 line begun => exact fun _ => ⟨[], [], by simp [linesFrom, begun]⟩
  | case3 line rest _ => exact fun _ => ⟨[], _, by rw [linesFrom, List.append_nil]⟩
  | case4 line c rest apart ends _ =>
      exact fun _ => ⟨[], _, by rw [linesFrom_cons apart, if_pos ends, List.append_nil]⟩
  | case5 line c rest apart inside ih =>
      intro _
      obtain ⟨more, others, eq⟩ := ih (List.cons_ne_nil c line)
      exact ⟨c :: more, others, by rw [linesFrom_cons apart, if_neg inside, eq]; simp⟩

theorem linesFrom_inside {c : Char} (inside : isLineBreak c = false) (line rest : List Char) :
    linesFrom line (c :: rest) = linesFrom (c :: line) rest := by
  rw [linesFrom_cons, if_neg (by simp [inside])]
  rintro rest rfl
  simp [isLineBreak] at inside

/-- Where the texts part ways, the next lines differ. -/
theorem linesFrom_ne_cons {c d : Char} (apart : c ≠ d) (inside : isLineBreak c = false)
    (inside' : isLineBreak d = false) (line rest rest' : List Char) :
    linesFrom line (c :: rest) ≠ linesFrom line (d :: rest') := by
  intro same
  rw [linesFrom_inside inside, linesFrom_inside inside'] at same
  obtain ⟨more, others, eq⟩ := exists_linesFrom (c :: line) rest (List.cons_ne_nil c line)
  obtain ⟨more', others', eq'⟩ := exists_linesFrom (d :: line) rest' (List.cons_ne_nil d line)
  rw [eq, eq'] at same
  simp [apart] at same

/-- What ends no line does not make a break of two characters with what stands before it. -/
theorem single_append {c d : Char} {common rest : List Char}
    (single : ∀ more, c = '\r' → common = '\n' :: more → False) (inside : isLineBreak d = false) :
    ∀ more, c = '\r' → common ++ d :: rest = '\n' :: more → False := by
  intro more isReturn eq
  cases common with
  | nil =>
      obtain rfl := (List.cons.inj eq).1
      simp [isLineBreak] at inside
  | cons first others => exact single others isReturn (by rw [(List.cons.inj eq).1])

/-- The lines differ at the latest where the texts part ways. The induction follows the lines of
what both have in common. -/
theorem linesFrom_ne {c d : Char} {rest rest' : List Char} (apart : c ≠ d)
    (inside : isLineBreak c = false) (inside' : isLineBreak d = false) (line common : List Char) :
    linesFrom line (common ++ c :: rest) ≠ linesFrom line (common ++ d :: rest') := by
  induction line, common using linesFrom.induct with
  | case1 line _ => exact linesFrom_ne_cons apart inside inside' line rest rest'
  | case2 line _ => exact linesFrom_ne_cons apart inside inside' line rest rest'
  | case3 line more ih =>
      simp only [List.cons_append, linesFrom]
      exact fun same => ih (List.cons.inj same).2
  | case4 line e more single ends ih =>
      rw [List.cons_append, List.cons_append, linesFrom_cons (single_append single inside),
        linesFrom_cons (single_append single inside'), if_pos ends, if_pos ends]
      exact fun same => ih (List.cons.inj same).2
  | case5 line e more single within ih =>
      rw [List.cons_append, List.cons_append, linesFrom_cons (single_append single inside),
        linesFrom_cons (single_append single inside'), if_neg within, if_neg within]
      exact ih

theorem PartsWays.lines_ne {s t : String} (parts : PartsWays s t) : lines s ≠ lines t := by
  obtain ⟨common, c, d, rest, rest', eq, eq', apart, inside, inside'⟩ := parts
  intro same
  rw [lines, lines, eq, eq'] at same
  exact linesFrom_ne apart inside inside' [] common
    (List.map_injective_iff.2 (fun _ _ => String.ofList_injective) same)

end Text

/-!
### Types that differ

Along the order on types a text or a list becomes a record. There the text of the one begins with a
letter, or with a parenthesis, and the text of the other with a brace.
-/

namespace TypeExpr

open TypedManifests.Text

variable (layout : Layout)

theorem partsWays_of_first {s t : String} {c d : Char} {rest rest' : List Char}
    (begins : s.toList = c :: rest) (begins' : t.toList = d :: rest') (apart : c ≠ d)
    (inside : isLineBreak c = false) (inside' : isLineBreak d = false) : PartsWays s t :=
  ⟨[], c, d, rest, rest', begins, begins', apart, inside, inside'⟩

theorem partsWays_reference (level : Nat) (fields : Fields) :
    PartsWays (print layout level .text) (print layout level (.record fields)) := by
  obtain ⟨rest, begins⟩ := print_record layout level fields
  have text : (print layout level .text).toList = 'T' :: "ext".toList := by
    rw [TypeExpr.text, print]
    decide
  exact partsWays_of_first text begins (by decide) (by decide) (by decide)

theorem partsWays_keyed (level : Nat) (element : TypeExpr) (fields : Fields) :
    PartsWays (print layout level (.list element)) (print layout level (.record fields)) := by
  obtain ⟨rest, begins⟩ := print_record layout level fields
  have list : (print layout level (.list element)).toList =
      'L' :: ("ist ".toList ++ (printArgument layout level element).toList) := by
    rw [print]
    simp
  exact partsWays_of_first list begins (by decide) (by decide) (by decide)

theorem partsWays_inParens {s t : String} (parts : PartsWays s t) :
    PartsWays (inParens s) (inParens t) :=
  (parts.behind "(").before ")" ")"

/-- A list in parentheses that becomes a record loses them. -/
theorem partsWays_parens (level : Nat) (printed : String) (fields : Fields) :
    PartsWays (inParens printed) (print layout level (.record fields)) := by
  obtain ⟨rest, begins⟩ := print_record layout level fields
  have parens : (inParens printed).toList = '(' :: (printed.toList ++ [')']) := by
    simp [inParens]
  exact partsWays_of_first parens begins (by decide) (by decide) (by decide)

theorem partsWays_printArgument {level : Nat} {s t : TypeExpr} (refines : Refines s t)
    (parts : PartsWays (print layout level s) (print layout level t)) :
    PartsWays (printArgument layout level s) (printArgument layout level t) := by
  cases refines with
  | scalar name => simpa [printArgument, needsParens] using parts
  | reference fields => simpa [printArgument, needsParens, TypeExpr.text] using parts
  | optional inner => simpa [printArgument, needsParens] using partsWays_inParens parts
  | list element => simpa [printArgument, needsParens] using partsWays_inParens parts
  | keyed element fields =>
      simpa [printArgument, needsParens] using partsWays_parens layout level _ fields
  | record fields => simpa [printArgument, needsParens] using parts

mutual

/-- Types that differ part ways; the induction is on the order. -/
theorem partsWays_print : ∀ {s t : TypeExpr}, Refines s t → ∀ level : Nat, s ≠ t →
    PartsWays (print layout level s) (print layout level t)
  | _, _, .scalar name, level, apart => absurd rfl apart
  | _, _, .reference fields, level, _ => partsWays_reference layout level fields
  | _, _, .optional inner, level, apart => by
      have differs := fun same => apart (congrArg TypeExpr.optional same)
      rw [print, print]
      exact (partsWays_printArgument layout inner
        (partsWays_print inner level differs)).behind "Optional "
  | _, _, .list element, level, apart => by
      have differs := fun same => apart (congrArg TypeExpr.list same)
      rw [print, print]
      exact (partsWays_printArgument layout element
        (partsWays_print element level differs)).behind "List "
  | _, _, .keyed element fields, level, _ => partsWays_keyed layout level element fields
  | _, _, .record .nil, level, apart => absurd rfl apart
  | _, _, .record (.cons label first others), level, apart => by
      have differs := fun same => apart (congrArg TypeExpr.record same)
      rw [print, print]
      exact ((partsWays_printFields (.cons label first others) level differs).behind
        (layout.opening level)).before (layout.closing level) (layout.closing level)

theorem partsWays_printFields : ∀ {fields fields' : Fields}, RefinesFields fields fields' →
    ∀ level : Nat, fields ≠ fields' →
      PartsWays (printFields layout level fields) (printFields layout level fields')
  | _, _, .nil, _, apart => absurd rfl apart
  | _, _, .cons (s := s) (t := t) label first .nil, level, apart => by
      have differs : s ≠ t := fun same => apart (by rw [same])
      rw [printFields, printFields]
      exact (partsWays_print first _ differs).behind (printLabel label ++ " : ")
  | _, _, .cons (s := s) (t := t) label first (.cons label' second others), level, apart => by
      rw [printFields, printFields]
      by_cases same : s = t
      · subst same
        have differs := fun same => apart (congrArg (List.cons (label, s)) same)
        exact (partsWays_printFields (.cons label' second others) level differs).behind _
      · have parts := (partsWays_print first (layout.fieldLevel level) same).behind
          (printLabel label ++ " : ")
        have separated := parts.before (layout.separator level) (layout.separator level)
        exact separated.before _ _

end

/-- A type that has become another one differs from it in a line. -/
theorem lines_print_eq_iff {s t : TypeExpr} (refines : Refines s t) (level : Nat) :
    lines (print layout level s) = lines (print layout level t) ↔ s = t := by
  constructor
  · intro same
    by_contra apart
    exact (partsWays_print layout refines level apart).lines_ne same
  · rintro rfl
    rfl

end TypeExpr

/-!
### What is shown
-/

open TypeExpr

namespace ConsoleItem

/-- Texts with the same lines give the message, other texts a difference that has lines. -/
theorem ofStrengthening_eq (before after name : String) :
    (Text.lines before = Text.lines after → ofStrengthening before after name =
      (Markup.plain ("[dim]ℹ No strengthening applied to " ++ name ++ ".[/dim]")).map .text) ∧
    (Text.lines before ≠ Text.lines after → ∃ lines, lines ≠ [] ∧
      ofStrengthening before after name = (Markup.plain ("Type Strengthening: " ++ name)).map
        (.difference (String.intercalate "\n" lines))) := by
  have shown := Diff.unified_eq_nil_iff ("inferred: " ++ name) "strengthened" (Text.lines before)
    (Text.lines after)
  unfold ofStrengthening
  constructor
  · intro same
    simp only [shown.2 same]
    rfl
  · intro differ
    simp only
    split
    · next empty => exact absurd (shown.1 empty) differ
    · next lines changed => exact ⟨_, changed, rfl⟩

end ConsoleItem

namespace Settings

theorem refines_strengthenType {s : Settings} {layout : Layout} {source : String}
    {sample : Option Value} {st : Strengthening}
    (run : s.strengthenType layout source sample = .ok st) : Refines st.given st.result := by
  obtain ⟨given, _, rfl⟩ := Strengthening.ofText_eq_ok.1 run
  exact Pass.refines_applyAll (s.passesFor sample) given

end Settings

namespace CommandLine

variable {st : Strengthening}

theorem bind_eq_ok {ε α β : Type} {x : Except ε α} {f : α → Except ε β} {b : β} :
    x >>= f = .ok b ↔ ∃ a, x = .ok a ∧ f a = .ok b := by
  cases x <;> simp [bind, Except.bind]

/-- What is shown tells whether a type that may only have become more is another one. -/
theorem differenceItem_eq (refines : Refines st.given st.result) (name : String) :
    (st.result = st.given → differenceItem st name =
      ((Markup.plain ("[dim]ℹ No strengthening applied to " ++ name ++ ".[/dim]")).map
        .text).mapError .markup) ∧
    (st.result ≠ st.given → ∃ lines, lines ≠ [] ∧ differenceItem st name =
      ((Markup.plain ("Type Strengthening: " ++ name)).map
        (.difference (String.intercalate "\n" lines))).mapError .markup) := by
  have sameLines := lines_print_eq_iff .block refines 0
  have shown := ConsoleItem.ofStrengthening_eq (print .block 0 st.given) (print .block 0 st.result)
    name
  constructor
  · intro same
    rw [differenceItem, shown.1 (sameLines.2 same.symm)]
  · intro apart
    obtain ⟨lines, nonempty, eq⟩ := shown.2 fun same => apart (sameLines.1 same).symm
    exact ⟨lines, nonempty, by rw [differenceItem, eq]⟩

theorem differenceItem_eq_text_iff (refines : Refines st.given st.result) {name : String}
    {item : ConsoleItem} (shows : differenceItem st name = .ok item) :
    (∃ shown, item = .text shown) ↔ st.result = st.given := by
  obtain ⟨unchanged, changed⟩ := differenceItem_eq refines name
  constructor
  · rintro ⟨shown, rfl⟩
    by_contra apart
    obtain ⟨lines, _, eq⟩ := changed apart
    rw [eq, mapError_eq_ok, map_eq_ok] at shows
    obtain ⟨title, _, other⟩ := shows
    cases other
  · intro same
    rw [unchanged same, mapError_eq_ok, map_eq_ok] at shows
    obtain ⟨shown, _, rfl⟩ := shows
    exact ⟨shown, rfl⟩

/-- Whatever a request to show the difference ends with, the difference is shown in front of the
type, and it is the message if and only if the type is as it was given. -/
theorem typeItems_difference {w : World} {stdin : String} {request : TypeRequest}
    (asked : request.difference = true) {items : List ConsoleItem} {code : Nat}
    (ran : typeItems w stdin request = .ok (items, code)) :
    ∃ (s : Settings) (layout : Layout) (source : String) (sample : Option Value)
        (st : Strengthening) (item : ConsoleItem), s.strengthenType layout source sample = .ok st ∧
      differenceItem st (request.file.getD "stdin") = .ok item ∧ items = [item, .text st.text] ∧
        ((∃ shown, item = .text shown) ↔ st.result = st.given) := by
  have inputs : ∃ (s : Settings) (source : String) (sample : Option Value),
      (do
        let layout := if request.compact then .oneLine else .block
        let st ← (s.strengthenType layout source sample).mapError (RequestError.type source)
        let item ← differenceItem st (request.file.getD "stdin")
        pure ([item, .text st.text], 0)) = Except.ok (items, code) := by
    simp only [typeItems, asked, if_true] at ran
    obtain ⟨s, _, ran⟩ := bind_eq_ok.1 ran
    -- the steps that read both inputs differ, what follows them does not
    cases file : request.file <;> cases samples : request.samples <;>
      simp only [file, samples] at ran
    all_goals
      obtain ⟨source, _, ran⟩ := bind_eq_ok.1 ran
      obtain ⟨sample, _, ran⟩ := bind_eq_ok.1 ran
      exact ⟨s, source, sample, ran⟩
  obtain ⟨s, source, sample, done⟩ := inputs
  obtain ⟨st, run, done⟩ := bind_eq_ok.1 done
  obtain ⟨item, shows, done⟩ := bind_eq_ok.1 done
  have run := mapError_eq_ok.1 run
  refine ⟨s, _, source, sample, st, item, run, shows, ?_, ?_⟩
  · cases done
    rfl
  · exact differenceItem_eq_text_iff (Settings.refines_strengthenType run) shows

/-- Whatever source text is read as a record type, and by whatever sample and under whatever
settings it is strengthened: the difference that is shown is the message that nothing was
strengthened if the type is as it was given, and else a difference that has lines. -/
theorem differenceItem_shows_change (s : Settings) (layout : Layout) (sample : Option Value)
    (name : String) {source : String} {given : TypeExpr}
    (denotes : parseRecord source = .ok given) :
    ∃ st, s.strengthenType layout source sample = .ok st ∧ st.given = given ∧
      (st.result = given → differenceItem st name =
        ((Markup.plain ("[dim]ℹ No strengthening applied to " ++ name ++ ".[/dim]")).map
          .text).mapError .markup) ∧
      (st.result ≠ given → ∃ lines, lines ≠ [] ∧ differenceItem st name =
        ((Markup.plain ("Type Strengthening: " ++ name)).map
          (.difference (String.intercalate "\n" lines))).mapError .markup) ∧
      ∀ item, differenceItem st name = .ok item →
        ((∃ shown, item = .text shown) ↔ st.result = given) := by
  have run : ∃ st, s.strengthenType layout source sample = .ok st ∧ st.given = given :=
    ⟨_, Strengthening.ofText_eq_ok.2 ⟨given, denotes, rfl⟩, rfl⟩
  obtain ⟨st, run, rfl⟩ := run
  have refines := Settings.refines_strengthenType run
  obtain ⟨unchanged, changed⟩ := differenceItem_eq refines name
  exact ⟨st, run, rfl, unchanged, changed, fun item shows =>
    differenceItem_eq_text_iff refines shows⟩

/-- A name that ends a line in the middle, before a field that is taken apart. -/
theorem differenceItem_shows_change_separator :
    let given : TypeExpr := .record [("a\u2028b", .text), ("image", .text)]
    let source := print .oneLine 0 given
    parseRecord source = .ok given ∧
      (∃ st lines, Settings.default.strengthenType .block source none = .ok st ∧
        st.result ≠ given ∧ lines ≠ [] ∧ differenceItem st "stdin" =
          .ok (.difference (String.intercalate "\n" lines) "Type Strengthening: stdin")) ∧
      ∃ st, { Settings.default with imageFields := [] }.strengthenType .block source none = .ok st ∧
        st.result = given ∧
          differenceItem st "stdin" = .ok (.text "ℹ No strengthening applied to stdin.") := by
  intro given source
  have denotable : Denotable given := by
    refine ⟨⟨_, rfl⟩, ?_, ?_⟩
    · simp [given, UniqueLabels, UniqueLabelsFields, TypeExpr.text]
    · unfold Printable
      decide
  have denotes : parseRecord source = .ok given := denotable.parseRecord_print .oneLine 0
  have title : Markup.plain ("Type Strengthening: " ++ "stdin") =
      .ok "Type Strengthening: stdin" := by cbv
  have message : Markup.plain ("[dim]ℹ No strengthening applied to " ++ "stdin" ++ ".[/dim]") =
      .ok "ℹ No strengthening applied to stdin." := by cbv
  refine ⟨denotes, ?_, ?_⟩
  · obtain ⟨st, run, _, _, changed, _⟩ :=
      differenceItem_shows_change Settings.default .block none "stdin" denotes
    have apart : st.result ≠ given := by
      obtain ⟨given', denotes', rfl⟩ := Strengthening.ofText_eq_ok.1 run
      obtain rfl := Except.ok.inj (denotes'.symm.trans denotes)
      decide
    obtain ⟨lines, nonempty, eq⟩ := changed apart
    exact ⟨st, lines, run, apart, nonempty, by rw [eq, title]; rfl⟩
  · obtain ⟨st, run, _, unchanged, _, _⟩ := differenceItem_shows_change
      { Settings.default with imageFields := [] } .block none "stdin" denotes
    have same : st.result = given := by
      obtain ⟨given', denotes', rfl⟩ := Strengthening.ofText_eq_ok.1 run
      obtain rfl := Except.ok.inj (denotes'.symm.trans denotes)
      decide
    exact ⟨st, run, same, by rw [unchanged same, message]; rfl⟩

end CommandLine

end TypedManifests
