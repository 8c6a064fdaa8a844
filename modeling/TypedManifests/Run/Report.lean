/-
Module: TypedManifests.Run.Report
Purpose: What a run reports, as a mapping and as a table.
Main exports: Report, Table, Report.toEntries, Report.tableOf
-/
import TypedManifests.Settings
import TypedManifests.Value.Shape

namespace TypedManifests

structure Report where
  output : Value
  resources : Nat
  components : List String
  typeSource : TypeSource
  strengthened : Bool
  appliedPasses : List String
  /-- The files that were written, in order. -/
  written : List Value
deriving Repr

/-- A table with a title and named columns. -/
structure Table where
  title : String
  columns : List String
  rows : List (List String)
deriving DecidableEq, Repr

namespace Report

def toEntries (r : Report) : Entries :=
  [(.text "output", r.output), (.text "resources", .int r.resources),
   (.text "components", .ofTexts r.components), (.text "type_source", .text r.typeSource.text),
   (.text "strengthened", .bool r.strengthened),
   (.text "applied_passes", .ofTexts r.appliedPasses), (.text "written", .list r.written)]

def yesMark : String := "✅"
def noMark : String := "➖"

/-- Texts in one cell, or a hyphen if there is nothing to show. -/
def joinedCell (value : Option Value) : Except ShapeError String := do
  let cell := String.intercalate ", " (← (value.getD (.list [])).items)
  return if cell = "" then "-" else cell

/-- The files written, one in each row. -/
def writtenRows : Option Value → Except ShapeError (List (List String))
  | none => .ok []
  | some (.list paths) => .ok (paths.map fun path => ["Written", path.display])
  | some v => do return (← v.items).map fun path => ["Written", path]

/-- The table of a report that is given as a mapping; what is missing counts as empty. -/
def tableOf (entries : Entries) : Except ShapeError Table := do
  let components ← joinedCell (entries.get? "components")
  let passes ← joinedCell (entries.get? "applied_passes")
  let written ← writtenRows (entries.get? "written")
  let strengthened := ((entries.get? "strengthened").getD .null).truthy
  return {
    title := "KubeDhall Conversion Report"
    columns := ["Item", "Value"]
    rows :=
      [["Resources", ((entries.get? "resources").getD (.int 0)).display],
       ["Components", components],
       ["Type Source", ((entries.get? "type_source").getD .null).display],
       ["Strengthened", if strengthened then yesMark else noMark],
       ["Passes", passes]] ++ written }

end Report

end TypedManifests
