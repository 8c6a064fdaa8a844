/-
Module: TypedManifests.Path.Basic
Purpose: File paths as text: segments between slashes. A leading slash makes a path absolute;
  exactly two of them are kept apart from one. The segments `.` and the empty ones say nothing.
Main exports: segments, isAbsolute, names, ofNames, join, normalize, absolute, relative, common,
  tidy, parentOf
-/
import TypedManifests.Text.Split

namespace TypedManifests.Path

open TypedManifests.Text

/-- The segments between the slashes, also the empty ones. -/
def segments (path : String) : List String :=
  (splitAll '/' path.toList).map String.ofList

def isAbsolute (path : String) : Bool := path.toList.head? = some '/'

/-- The slashes that an absolute path begins with: two if it has exactly two, else one. -/
def root (path : String) : String :=
  match (path.toList.takeWhile (· = '/')).length with
  | 0 => ""
  | 2 => "//"
  | _ => "/"

/-- A segment that names a place of its own. -/
def isPlace (segment : String) : Bool := segment ≠ "" && segment ≠ "."

/-- The named segments. -/
def names (path : String) : List String := (segments path).filter isPlace

/-- The root of an absolute path, then the named segments. -/
def parts (path : String) : List String :=
  if isAbsolute path then root path :: names path else names path

def ofNames (rootText : String) (names : List String) : String :=
  rootText ++ String.intercalate "/" names

/-- The last named segment, empty if there is none. -/
def baseName (path : String) : String := (names path).getLast?.getD ""

/-- The path of an entry of a directory. -/
def join (directory entry : String) : String :=
  if isAbsolute entry then entry
  else if directory = "" ∨ directory.toList.getLast? = some '/' then directory ++ entry
  else directory ++ "/" ++ entry

/-- What stands before the last slash; slashes at its end are dropped unless there is nothing else.
-/
def directory (path : String) : String :=
  let reversed := path.toList.reverse.dropWhile (· ≠ '/')
  let trimmed := reversed.dropWhile (· = '/')
  String.ofList (if trimmed.isEmpty then reversed else trimmed).reverse

/-- What stands after the last slash. -/
def lastSegment (path : String) : String :=
  String.ofList (path.toList.reverse.takeWhile (· ≠ '/')).reverse

/-- The names with each `..` taken back together with the name before it. Above the root of an
absolute path there is nothing to take back. -/
def cancelParents (absolute : Bool) (names : List String) : List String :=
  (names.foldl step []).reverse
where
  step (done : List String) (name : String) : List String :=
    if name ≠ ".." then name :: done
    else
      match done with
      | [] => if absolute then [] else [name]
      | last :: rest => if last = ".." then name :: done else rest

/-- The shortest path to the same place, by its text alone. -/
def normalize (path : String) : String :=
  let text := ofNames (root path) (cancelParents (isAbsolute path) (names path))
  if text = "" then "." else text

/-- The absolute path of a place that is given from a working directory. -/
def absolute (workingDirectory path : String) : String := normalize (join workingDirectory path)

/-- The longest list that both begin with. -/
def sharedStart : List String → List String → List String
  | a :: s, b :: t => if a = b then a :: sharedStart s t else []
  | _, _ => []

/-- How to get from `start` to `path`, both absolute. -/
def relative (path start : String) : String :=
  let target := names (normalize path)
  let origin := names (normalize start)
  let shared := (sharedStart target origin).length
  let steps := List.replicate (origin.length - shared) ".." ++ target.drop shared
  if steps.isEmpty then "." else String.intercalate "/" steps

/-- Absolute and relative paths have no place in common. -/
inductive CommonError where
  | mixed
deriving DecidableEq, Repr

def CommonError.message : CommonError → String
  | .mixed => "Can't mix absolute and relative paths"

/-- The names that all paths begin with. -/
def sharedNames : List String → List String
  | [] => []
  | path :: rest => rest.foldl (fun shared other => sharedStart shared (names other)) (names path)

/-- The deepest place that all paths share, which are absolute; of no paths, the root. -/
def commonAbsolute (paths : List String) : String := ofNames "/" (sharedNames paths)

/-- The deepest place that all paths share; of no paths, the root. -/
def common : List String → Except CommonError String
  | [] => .ok "/"
  | path :: rest =>
    if rest.any fun other => isAbsolute other ≠ isAbsolute path then .error .mixed
    else .ok (ofNames (if isAbsolute path then "/" else "") (sharedNames (path :: rest)))

/-- The path without what says nothing. -/
def tidy (path : String) : String :=
  let text := ofNames (root path) (names path)
  if text = "" then "." else text

/-- The path without its last name. -/
def parentOf (path : String) : String :=
  let text := ofNames (root path) (names path).dropLast
  if text = "" then "." else text

end TypedManifests.Path
