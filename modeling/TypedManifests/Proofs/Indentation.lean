/-
Module: TypedManifests.Proofs.Indentation
Purpose: Indentation is uniform. Going to a deeper level puts the same blanks behind every line feed
  of a printed type, whatever is nested in it, and the layout on one line has no line feed.
Main exports: OneLine, indentMore, indentMore_append, print_add, oneLine_print, print_indented
-/
import TypedManifests.Proofs.PrintedTypes

namespace TypedManifests.TypeExpr

/-!
### Lines
-/

/-- The text has no line feed. -/
def OneLine (text : String) : Prop := '\n' ∉ text.toList

instance (text : String) : Decidable (OneLine text) :=
  inferInstanceAs (Decidable ('\n' ∉ text.toList))

theorem oneLine_append {front back : String} :
    OneLine (front ++ back) ↔ OneLine front ∧ OneLine back := by
  simp [OneLine]

/-- The text with `2 * levels` blanks behind every line feed. -/
def indentMore (levels : Nat) (text : String) : String :=
  String.ofList (text.toList.flatMap fun c =>
    if c = '\n' then c :: List.replicate (2 * levels) ' ' else [c])

theorem indentMore_append (levels : Nat) (front back : String) :
    indentMore levels (front ++ back) = indentMore levels front ++ indentMore levels back := by
  simp [indentMore]

/-- A text on one line stays as it is. -/
theorem indentMore_of_oneLine {text : String} (oneLine : OneLine text) (levels : Nat) :
    indentMore levels text = text := by
  have same : (text.toList.flatMap fun c =>
      if c = '\n' then c :: List.replicate (2 * levels) ' ' else [c]) =
        text.toList.flatMap fun c => [c] := by
    refine List.flatMap_congr fun c member => if_neg ?_
    rintro rfl
    exact oneLine member
  rw [indentMore, same, List.flatMap_singleton', String.ofList_toList]

theorem indentation_add (level levels : Nat) :
    indentation (level + levels) = indentation levels ++ indentation level := by
  simp only [indentation, ← String.ofList_append, List.replicate_append_replicate]
  congr 2
  omega

theorem oneLine_indentation (level : Nat) : OneLine (indentation level) := by
  simp [OneLine, indentation]

/-- Behind a line feed, the indentation grows. -/
theorem indentMore_newLine {line : String} (mark : String) (ends : line = mark ++ "\n")
    (oneLine : OneLine mark) (levels level : Nat) :
    indentMore levels (line ++ indentation level) = line ++ indentation (level + levels) := by
  have lineFeed : indentMore levels "\n" = "\n" ++ indentation levels := by
    simp [indentMore, indentation]
  rw [ends, indentMore_append, indentMore_append, indentMore_of_oneLine oneLine, lineFeed,
    indentMore_of_oneLine (oneLine_indentation level), indentation_add]
  simp only [String.append_assoc]

/-!
### Names and layouts
-/

theorem oneLine_inBackticks {name : String} (oneLine : OneLine name) :
    OneLine (inBackticks name) := by
  rw [inBackticks, oneLine_append, oneLine_append]
  exact ⟨⟨by decide, oneLine⟩, by decide⟩

theorem oneLine_printLabel {label : String} (oneLine : OneLine label) :
    OneLine (printLabel label) := by
  rw [printLabel]
  split
  · exact oneLine
  · exact oneLine_inBackticks oneLine

theorem oneLine_printScalar {name : String} (oneLine : OneLine name) :
    OneLine (printScalar name) := by
  rw [printScalar]
  split
  · exact oneLine
  · exact oneLine_inBackticks oneLine

namespace Layout

variable (layout : Layout) (levels level : Nat)

theorem fieldLevel_add :
    layout.fieldLevel (level + levels) = layout.fieldLevel level + levels := by
  cases layout <;> simp only [fieldLevel]
  omega

/-- The layout on one line sets no line feed around the fields. -/
theorem oneLine_marks : OneLine (Layout.oneLine.opening level) ∧
    OneLine (Layout.oneLine.separator level) ∧ OneLine (Layout.oneLine.closing level) :=
  ⟨show OneLine "\x7b " by decide, show OneLine ", " by decide, show OneLine " \x7d" by decide⟩

theorem indentMore_opening :
    indentMore levels (layout.opening level) = layout.opening (level + levels) := by
  cases layout with
  | block =>
      rw [opening, opening, Nat.add_right_comm]
      exact indentMore_newLine "\x7b" rfl (by decide) levels (level + 1)
  | oneLine => exact indentMore_of_oneLine (oneLine_marks level).1 levels

theorem indentMore_separator :
    indentMore levels (layout.separator level) = layout.separator (level + levels) := by
  cases layout with
  | block =>
      rw [separator, separator, Nat.add_right_comm]
      exact indentMore_newLine "," rfl (by decide) levels (level + 1)
  | oneLine => exact indentMore_of_oneLine (oneLine_marks level).2.1 levels

theorem indentMore_closing :
    indentMore levels (layout.closing level) = layout.closing (level + levels) := by
  cases layout with
  | block =>
      have newLine := indentMore_newLine "" (show "\n" = "" ++ "\n" from rfl) (by decide)
      rw [closing, closing, indentMore_append, newLine,
        indentMore_of_oneLine (show OneLine "\x7d" by decide)]
  | oneLine => exact indentMore_of_oneLine (oneLine_marks level).2.2 levels

end Layout

/-!
### Printed types

The induction is on the type, for all levels at once: the fields of a record in block layout stand
one level deeper than the record.
-/

variable {layout : Layout}

theorem indentMore_printArgument {t : TypeExpr} {levels level : Nat}
    (printed : indentMore levels (print layout level t) = print layout (level + levels) t) :
    indentMore levels (printArgument layout level t) = printArgument layout (level + levels) t := by
  rw [printArgument, printArgument]
  split
  · rw [inParens, inParens, indentMore_append, indentMore_append, printed,
      indentMore_of_oneLine (show OneLine "(" by decide),
      indentMore_of_oneLine (show OneLine ")" by decide)]
  · exact printed

/-- A label, a colon and a type. -/
theorem indentMore_field {label printed printed' : String} {levels : Nat}
    (oneLine : OneLine label) (inner : indentMore levels printed = printed') :
    indentMore levels (printLabel label ++ " : " ++ printed) =
      printLabel label ++ " : " ++ printed' := by
  rw [indentMore_append, indentMore_append, indentMore_of_oneLine (oneLine_printLabel oneLine),
    indentMore_of_oneLine (show OneLine " : " by decide), inner]

mutual

/-- A deeper level indents every line but the first one, and nothing else. -/
theorem indentMore_print (layout : Layout) (levels : Nat) : ∀ (t : TypeExpr) (level : Nat),
    (∀ name ∈ t.names, OneLine name) →
      indentMore levels (print layout level t) = print layout (level + levels) t
  | .scalar name, level, named => by
      rw [print, print]
      exact indentMore_of_oneLine (oneLine_printScalar (named name (by simp [names]))) levels
  | .optional t, level, named => by
      rw [print, print, indentMore_append,
        indentMore_of_oneLine (show OneLine "Optional " by decide),
        indentMore_printArgument (indentMore_print layout levels t level named)]
  | .list t, level, named => by
      rw [print, print, indentMore_append,
        indentMore_of_oneLine (show OneLine "List " by decide),
        indentMore_printArgument (indentMore_print layout levels t level named)]
  | .record [], level, _ => by
      rw [print, print]
      exact indentMore_of_oneLine (by decide) levels
  | .record (field :: rest), level, named => by
      rw [print, print, indentMore_append, indentMore_append, layout.indentMore_opening,
        layout.indentMore_closing, indentMore_printFields layout levels (field :: rest) level named]

theorem indentMore_printFields (layout : Layout) (levels : Nat) :
    ∀ (fields : List (String × TypeExpr)) (level : Nat),
      (∀ name ∈ namesFields fields, OneLine name) →
        indentMore levels (printFields layout level fields) =
          printFields layout (level + levels) fields
  | [], level, _ => by
      rw [printFields, printFields]
      exact indentMore_of_oneLine (by decide) levels
  | (label, t) :: [], level, named => by
      have inner := indentMore_print layout levels t (layout.fieldLevel level)
        fun name member => named name (by simp [namesFields, member])
      rw [printFields, printFields, layout.fieldLevel_add]
      exact indentMore_field (named label (by simp [namesFields])) inner
  | (label, t) :: second :: rest, level, named => by
      have inner := indentMore_print layout levels t (layout.fieldLevel level)
        fun name member => named name (by simp [namesFields, member])
      have others := indentMore_printFields layout levels (second :: rest) level
        fun name member => named name (by rw [namesFields]; simp [member])
      rw [printFields, printFields, layout.fieldLevel_add, indentMore_append, indentMore_append,
        indentMore_field (named label (by simp [namesFields])) inner, layout.indentMore_separator,
        others]

end

/-!
### One line

The layout on one line adds no line feed to those of the names.
-/

theorem oneLine_printArgument {t : TypeExpr} {level : Nat}
    (oneLine : OneLine (print layout level t)) : OneLine (printArgument layout level t) := by
  rw [printArgument]
  split
  · rw [inParens, oneLine_append, oneLine_append]
    exact ⟨⟨by decide, oneLine⟩, by decide⟩
  · exact oneLine

theorem oneLine_field {label printed : String} (oneLine : OneLine label)
    (inner : OneLine printed) : OneLine (printLabel label ++ " : " ++ printed) := by
  rw [oneLine_append, oneLine_append]
  exact ⟨⟨oneLine_printLabel oneLine, by decide⟩, inner⟩

mutual

theorem oneLine_print : ∀ (t : TypeExpr) (level : Nat), (∀ name ∈ t.names, OneLine name) →
    OneLine (print .oneLine level t)
  | .scalar name, level, named => by
      rw [print]
      exact oneLine_printScalar (named name (by simp [names]))
  | .optional t, level, named => by
      rw [print, oneLine_append]
      exact ⟨by decide, oneLine_printArgument (oneLine_print t level named)⟩
  | .list t, level, named => by
      rw [print, oneLine_append]
      exact ⟨by decide, oneLine_printArgument (oneLine_print t level named)⟩
  | .record [], level, _ => by
      rw [print]
      decide
  | .record (field :: rest), level, named => by
      obtain ⟨opening, -, closing⟩ := Layout.oneLine_marks level
      rw [print, oneLine_append, oneLine_append]
      exact ⟨⟨opening, oneLine_printFields (field :: rest) level named⟩, closing⟩

theorem oneLine_printFields : ∀ (fields : List (String × TypeExpr)) (level : Nat),
    (∀ name ∈ namesFields fields, OneLine name) → OneLine (printFields .oneLine level fields)
  | [], level, _ => by
      rw [printFields]
      decide
  | (label, t) :: [], level, named => by
      have inner := oneLine_print t level
        fun name member => named name (by simp [namesFields, member])
      rw [printFields]
      exact oneLine_field (named label (by simp [namesFields])) inner
  | (label, t) :: second :: rest, level, named => by
      have inner := oneLine_print t level
        fun name member => named name (by simp [namesFields, member])
      have others := oneLine_printFields (second :: rest) level
        fun name member => named name (by rw [namesFields]; simp [member])
      obtain ⟨-, separator, -⟩ := Layout.oneLine_marks level
      rw [printFields, oneLine_append, oneLine_append]
      exact ⟨⟨oneLine_field (named label (by simp [namesFields])) inner, separator⟩, others⟩

end

/-!
### Indentation
-/

/-- The text of a type at a level is its text at level zero with two blanks for each level behind
every line feed; on one line there is no line feed, and the level does not matter. -/
theorem print_indented {t : TypeExpr} (named : ∀ name ∈ t.names, OneLine name) (level : Nat) :
    print .block level t = indentMore level (print .block 0 t) ∧
      OneLine (print .oneLine level t) ∧ print .oneLine level t = print .oneLine 0 t := by
  have deeper (layout : Layout) := indentMore_print layout level t 0 named
  rw [Nat.zero_add] at deeper
  refine ⟨(deeper .block).symm, oneLine_print t level named, ?_⟩
  rw [← deeper .oneLine, indentMore_of_oneLine (oneLine_print t 0 named)]

/-- A list of records in parentheses, under a quoted label. -/
theorem print_indented_nested :
    let t : TypeExpr := .record [("a b", .optional (.list (.record [("c", .text)])))]
    (∀ name ∈ t.names, OneLine name) ∧
      print .block 0 t =
        "\x7b\n  \x60a b\x60 : Optional (List \x7b\n    c : Text\n  \x7d)\n\x7d" ∧
      print .block 1 t =
        "\x7b\n    \x60a b\x60 : Optional (List \x7b\n      c : Text\n    \x7d)\n  \x7d" ∧
      print .oneLine 1 t = "\x7b \x60a b\x60 : Optional (List \x7b c : Text \x7d) \x7d" := by
  intro t
  have named : ∀ name ∈ t.names, OneLine name := by decide
  have block : print .block 0 t =
      "\x7b\n  \x60a b\x60 : Optional (List \x7b\n    c : Text\n  \x7d)\n\x7d" := by cbv
  have line : print .oneLine 0 t =
      "\x7b \x60a b\x60 : Optional (List \x7b c : Text \x7d) \x7d" := by cbv
  obtain ⟨indented, -, same⟩ := print_indented named 1
  refine ⟨named, block, ?_, ?_⟩
  · rw [indented, block]
    cbv
  · rw [same, line]

end TypedManifests.TypeExpr
