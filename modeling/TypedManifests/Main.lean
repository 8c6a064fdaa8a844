/-
Module: TypedManifests.Main
Purpose: The program as it is started. The files that the command line names are read into a world,
  the command line is run in it, what it shows is printed, and the files that it changed are
  written. Directories are not listed and no outside command is started: a run that needs a command
  ends as if it were missing.
Main exports: readWorld, writeChanges, run, main
-/
import TypedManifests.CommandLine.Program

namespace TypedManifests.Main

open CommandLine

/-! ### Reading and writing files -/

/-- The files that a request reads. -/
def filesOf : Request → List String
  | .convert request => request.paths ++ request.settingsFile.toList
  | .type request =>
    request.file.toList ++ request.samples.toList ++ request.settingsFile.toList
  | _ => []

/-- The request reads a type from the standard input. -/
def readsInput : Request → Bool
  | .type request => request.file.isNone
  | _ => false

/-- The workspace with the file at a path, if there is one that holds text. -/
def readInto (w : Workspace) (path : String) : IO Workspace := do
  match ← (IO.FS.readFile path).toBaseIO with
  | .ok text => return w.provide path text
  | .error _ => return w

/-- The world in which a request is met. -/
def readWorld (request : Request) : IO World := do
  let here := toString (← IO.currentDir)
  let files ← (filesOf request).foldlM readInto (Workspace.empty here)
  return { files, replies := [], calls := [], log := [], host := .posix }

def pathOf (place : Place) : String := "/" ++ String.intercalate "/" place

/-- Writes what is new or changed, and takes away what is gone. -/
def writeChanges (before after : FileTree) : IO Unit := do
  for (place, text) in after.files do
    if before.text? place ≠ some text then IO.FS.writeFile (pathOf place) text
  for (place, _) in before.files do
    if (after.find? place).isNone then IO.FS.removeFile (pathOf place)

/-! ### Showing -/

def usage : String :=
  String.intercalate "\n"
    ["usage: kubedhall [--version] [--debug] convert [OPTION]... [PATH]...",
     "       kubedhall [--version] [--debug] type [OPTION]... [FILE]"]

/-- A row of a table, its cells as wide as their columns. -/
def rowText (widths : List Nat) (cells : List String) : String :=
  String.intercalate "  " ((cells.zip widths).map fun (cell, width) =>
    cell ++ String.ofList (List.replicate (width - cell.length) ' '))

def tableText (t : Table) : String :=
  let rows := t.columns :: t.rows
  let widths := (List.range t.columns.length).map fun i =>
    (rows.map fun row => (row.getD i "").length).foldl max 0
  String.intercalate "\n" (t.title :: rows.map (rowText widths))

def itemText : ConsoleItem → String
  | .text text => text
  | .panel body title => body ++ " - " ++ title
  | .difference lines title => title ++ "\n" ++ lines
  | .table table => tableText table

def printedText : Printed → Option String
  | .nothing => none
  | .version => some versionText
  | .help => some usage

def run (arguments : List String) : IO UInt32 := do
  let request := Request.ofTexts arguments
  let before ← readWorld request
  let stdin ← if readsInput request then (← IO.getStdin).readToEnd else pure ""
  let (outcome, after) := CommandLine.run arguments stdin before
  for line in after.log do
    IO.eprintln line.toText
  for item in outcome.console do
    IO.println (itemText item)
  if let some text := printedText outcome.printed then IO.println text
  writeChanges before.files.tree after.files.tree
  match outcome.raised with
  | some failure => IO.eprintln failure.message
  | none => pure ()
  return (outcome.exit.getD 1).toUInt32

end TypedManifests.Main

def main (arguments : List String) : IO UInt32 := TypedManifests.Main.run arguments
