/-
Module: TypedManifests.Strengthening
Purpose: The passes over a type, and what they come to one after the other.
Main exports: Pass, Pass.apply, applyAll, Strengthening, Strengthening.ofText
-/
import TypedManifests.ImageConvention
import TypedManifests.SampleIndex
import TypedManifests.TypeExpr.Parser
import TypedManifests.TypeExpr.Printer
import TypedManifests.TypeExpr.Transform

/-!
Passes that make a type say more. One turns a list of named records into a record with a field per
name, the other takes apart image references. A pass that finds nothing to do gives its input back.
-/

namespace TypedManifests

inductive Pass where
  /-- Lists that the sample index knows as keyed, by one of the given fields, become records. -/
  | listToRecord (index : SampleIndex) (keyFields : List String)
  /-- Text fields covered by a convention get its type. -/
  | conventions (table : List ImageConvention)
deriving Repr

namespace Pass

/-- How the pass is called in reports. -/
def name : Pass → String
  | .listToRecord .. => "list-to-record"
  | .conventions [_] => ImageConvention.name
  | .conventions _ => "field-conventions"

/-- The names by which a list of records at `path` is split into fields: those of the index, if the
element type has the key field as text, the field is among `keyFields` and no name repeats. -/
def splitting? (index : SampleIndex) (keyFields : List String) (path : LabelPath)
    (element : Fields) :
    Option KeyedList :=
  (index.lookup path).filter fun keyed =>
    keyFields.contains keyed.field && TypeExpr.field? element keyed.field = some .text &&
      !keyed.names.isEmpty && decide keyed.names.Nodup

mutual

/-- The type at `path` with its keyed lists turned into records. -/
def splitLists (index : SampleIndex) (keyFields : List String) (path : LabelPath) :
    TypeExpr → TypeExpr
  | .scalar name => .scalar name
  | .optional t => .optional (splitLists index keyFields path t)
  | .record fields => .record (splitListsFields index keyFields none path fields)
  | .list (.record element) =>
    match splitting? index keyFields path element with
    | none => .list (.record element)
    | some keyed =>
      .record (keyed.names.map fun name =>
        (name, .record
          (splitListsFields index keyFields (some keyed.field) (path ++ [name]) element)))
  | .list t => .list t

/-- The fields of a record at `path`, except those labelled `dropped`. -/
def splitListsFields (index : SampleIndex) (keyFields : List String) (dropped : Option String)
    (path : LabelPath) : List (String × TypeExpr) → List (String × TypeExpr)
  | [] => []
  | (label, t) :: rest =>
    if dropped = some label then splitListsFields index keyFields dropped path rest
    else (label, splitLists index keyFields (path ++ [label]) t) ::
      splitListsFields index keyFields dropped path rest

end

/-- The type after the pass. -/
def apply : Pass → TypeExpr → TypeExpr
  | .listToRecord index keyFields, t => splitLists index keyFields [] t
  | .conventions table, t => t.transform (ImageConvention.retypeRecord table)

/-- Runs the passes in order: the last type, and the names of the passes that changed something. -/
def applyAll : List Pass → TypeExpr → TypeExpr × List String
  | [], t => (t, [])
  | pass :: rest, t =>
    let t' := pass.apply t
    let (result, names) := applyAll rest t'
    (result, if t' = t then names else pass.name :: names)

end Pass

/-- A type before and after the passes, its text, and the names of the passes that changed it. -/
structure Strengthening where
  given : TypeExpr
  result : TypeExpr
  text : String
  applied : List String

namespace Strengthening

/-- The passes taken together changed the type. -/
def changed (s : Strengthening) : Bool := s.given ≠ s.result

/-- Reads a record type, runs the passes and prints the result. -/
def ofText (passes : List Pass) (layout : TypeExpr.Layout) (source : String) :
    Except TypeExpr.ReadError Strengthening := do
  let given ← TypeExpr.parseRecord source
  let (result, applied) := Pass.applyAll passes given
  return { given, result, text := result.print layout 0, applied }

end Strengthening

end TypedManifests
