/-
Module: TypedManifests.Console.Item
Purpose: What is shown on the console: lines of text, boxes with a title, differences and tables.
Main exports: ConsoleItem, ConsoleItem.header, ConsoleItem.failure, ConsoleItem.ofStrengthening
-/
import TypedManifests.Console.Markup
import TypedManifests.Diff.Unified
import TypedManifests.Run.Report
import TypedManifests.Text.Lines

namespace TypedManifests

inductive ConsoleItem where
  | text (text : String)
  | panel (body title : String)
  | difference (lines title : String)
  | table (table : Table)
deriving DecidableEq, Repr

namespace ConsoleItem

/-- The program's name and version. -/
def programLabel : String := "KubeDhall v0.1.0"

/-- The box that a run begins with. -/
def header (subtitle : String) : ConsoleItem := .panel programLabel subtitle

/-- The line for a failure. -/
def failure (message : String) : ConsoleItem := .text ("Error: " ++ message)

/-- The difference of a type before and after strengthening; `name` may have style tags. -/
def ofStrengthening (before after name : String) : Except Markup.MarkupError ConsoleItem := do
  let (before, after) := (Text.lines before, Text.lines after)
  match Diff.unified ("inferred: " ++ name) "strengthened" before after with
  | [] =>
    return .text (← Markup.plain ("[dim]ℹ No strengthening applied to " ++ name ++ ".[/dim]"))
  | lines =>
    return .difference (String.intercalate "\n" lines)
      (← Markup.plain ("Type Strengthening: " ++ name))

end ConsoleItem

end TypedManifests
