/-
Module: TypedManifests.Proofs.RoundTrip
Purpose: Printing and parsing are inverse on the printable types, which are those whose labels and
  scalar names all fit between two backticks. The text of a printable type is read as tokens that
  derive the type, and a type that was parsed is printable.
Main exports: parse_print, parseRecord_eq_parse, parse_print_iff_printable
-/
import TypedManifests.Proofs.PrintedTypes

namespace TypedManifests.TypeExpr

open TypedManifests.Text

/-- The text of a well-formed printable type denotes it, in both layouts and at every level. -/
theorem parse_print {t : TypeExpr} (unique : t.UniqueLabels) (printable : t.Printable)
    (layout : Layout) (level : Nat) : parse (print layout level t) = .ok t := by
  obtain ⟨l, lexed, strict⟩ := lex_print unique printable layout level
  rw [parse_of_lex lexed, mapError_eq_ok, parseTokens_eq_ok_iff]
  exact strict.derives_tokens

/-- A text that begins with a brace is read in the same way whether or not a record is asked for. -/
theorem parseRecord_eq_parse {source : String} {rest : List Char}
    (brace : source.toList = '\x7b' :: rest) : parseRecord source = parse source := by
  have reads : lex source = (lexFrom (Position.start.next '\x7b') rest).map
      (Lexed.prepend [⟨.openBrace, "\x7b", .start⟩]) := by
    rw [lex, brace]
    exact reads_symbol (by decide) rfl
  cases others : lexFrom (Position.start.next '\x7b') rest with
  | error e =>
      rw [others] at reads
      simp [parseRecord, parse, reads, Except.map]
  | ok l =>
      rw [others] at reads
      rw [parse_of_lex reads, parseRecord_of_lex reads]
      rfl

theorem print_record (layout : Layout) (level : Nat) (fields : Fields) :
    ∃ rest, (print layout level (.record fields)).toList = '\x7b' :: rest := by
  cases fields with
  | nil =>
      rw [print]
      exact ⟨_, rfl⟩
  | cons field rest =>
      rw [print]
      cases layout <;> simp [Layout.opening]

/-- Printing and parsing are inverse on exactly the printable types; for a record it does not matter
whether one is asked for; and no text denotes a type that is not printable, so that printing a
parsed type never changes it. -/
theorem parse_print_iff_printable :
    (∀ (t : TypeExpr) (layout : Layout) (level : Nat), t.UniqueLabels →
      (parse (print layout level t) = .ok t ↔ t.Printable)) ∧
    (∀ (fields : Fields) (layout : Layout) (level : Nat),
      parseRecord (print layout level (.record fields)) =
        parse (print layout level (.record fields))) ∧
    (∀ (source : String) (t : TypeExpr), parse source = .ok t →
      t.Printable ∧ ∀ (layout : Layout) (level : Nat), parse (print layout level t) = .ok t) := by
  refine ⟨fun t layout level unique => ⟨?_, ?_⟩, fun fields layout level => ?_,
    fun source t denotes => ?_⟩
  · exact fun denotes => (uniqueLabels_and_printable_of_parse denotes).2
  · exact fun printable => parse_print unique printable layout level
  · obtain ⟨rest, brace⟩ := print_record layout level fields
    exact parseRecord_eq_parse brace
  · obtain ⟨unique, printable⟩ := uniqueLabels_and_printable_of_parse denotes
    exact ⟨printable, parse_print unique printable⟩

/-- Labels and names that are keywords, reserved, empty or no words at all. -/
theorem parse_print_iff_printable_quoted :
    let t : TypeExpr := .record
      [("List", .optional (.list (.scalar "Optional"))), ("", .scalar "if"),
        ("é\u2028", .record [])]
    let source := "List (Optional \x60a b\x60)"
    t.UniqueLabels ∧ t.Printable ∧ parse (print .block 1 t) = .ok t ∧
      parseRecord (print .block 1 t) = .ok t ∧
      parse source = .ok (.list (.optional (.scalar "a b"))) ∧
      parse (print .oneLine 0 (.list (.optional (.scalar "a b")))) =
        .ok (.list (.optional (.scalar "a b"))) := by
  intro t source
  have unique : t.UniqueLabels := by simp [t, UniqueLabels, UniqueLabelsFields]
  have printable : t.Printable := by unfold Printable; decide
  have denotes : parse source = .ok (.list (.optional (.scalar "a b"))) := by cbv
  have round := (parse_print_iff_printable.1 t .block 1 unique).2 printable
  refine ⟨unique, printable, round, ?_, denotes, ?_⟩
  · rw [parse_print_iff_printable.2.1]
    exact round
  · exact (parse_print_iff_printable.2.2 source _ denotes).2 .oneLine 0

end TypedManifests.TypeExpr
