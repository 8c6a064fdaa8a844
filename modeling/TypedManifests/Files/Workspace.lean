/-
Module: TypedManifests.Files.Workspace
Purpose: A tree of files seen from a working directory. Files are named by paths; a path leads
  through directories that exist, and two points lead back up.
Main exports: FileFault, FileError, Workspace, Workspace.locate, Workspace.read, Workspace.write,
  Workspace.delete, Workspace.move
-/
import TypedManifests.Files.Tree
import TypedManifests.Path.Basic
import TypedManifests.Text.QuotedLiteral

namespace TypedManifests

/-- Why a file is not read, written or moved. -/
inductive FileFault where
  | notFound
  | isADirectory
  | notADirectory
  /-- The last segment of a target leads back up. -/
  | busy
  /-- The path holds a zero character, which ends texts. -/
  | zeroInPath
deriving DecidableEq, Repr

/-- A fault and the path that it was met on; for a file that is moved also where to. -/
structure FileError where
  fault : FileFault
  path : String
  target : Option String
deriving DecidableEq, Repr

namespace FileFault

/-- The number of a fault that the system tells. -/
def number? : FileFault → Option Nat
  | .notFound => some 2
  | .busy => some 16
  | .notADirectory => some 20
  | .isADirectory => some 21
  | .zeroInPath => none

def describe : FileFault → String
  | .notFound => "No such file or directory"
  | .busy => "Device or resource busy"
  | .notADirectory => "Not a directory"
  | .isADirectory => "Is a directory"
  | .zeroInPath => "embedded null byte"

end FileFault

def FileError.message (e : FileError) : String :=
  match e.fault.number? with
  | none => e.fault.describe
  | some number =>
    s!"[Errno {number}] " ++ e.fault.describe ++ ": " ++ Text.quotedLiteral e.path ++
      (match e.target with
        | some target => " -> " ++ Text.quotedLiteral target
        | none => "")

structure Workspace where
  tree : FileTree
  /-- The place of the working directory. -/
  directory : Place
deriving Repr

namespace Workspace

/-- The path of the working directory. -/
def path (w : Workspace) : String := "/" ++ String.intercalate "/" w.directory

/-- The absolute path to which a path leads if no directory on the way is missing. -/
def absolute (w : Workspace) (path : String) : String := Path.absolute w.path path

/-- Follows the segments of a path from a place on. What a segment is looked up in is a directory.
-/
def follow (tree : FileTree) (here : Place) : List String → Except FileFault Place
  | [] => .ok here
  | segment :: rest =>
    match tree.find? here with
    | none => .error .notFound
    | some (.file _) => .error .notADirectory
    | some (.directory _) =>
      if segment = "" ∨ segment = "." then follow tree here rest
      else if segment = ".." then follow tree here.dropLast rest
      else follow tree (here ++ [segment]) rest

/-- The place that a path leads to; there may be nothing there. -/
def locate (w : Workspace) (path : String) : Except FileFault Place :=
  if path = "" then .error .notFound
  else follow w.tree (if Path.isAbsolute path then [] else w.directory) (Path.segments path)

/-- What a path leads to. -/
def find? (w : Workspace) (path : String) : Option FileTree :=
  match w.locate path with
  | .ok place => w.tree.find? place
  | .error _ => none

def hasFile (w : Workspace) (path : String) : Bool :=
  match w.find? path with
  | some (.file _) => true
  | _ => false

def has (w : Workspace) (path : String) : Bool := (w.find? path).isSome

/-- The text of a file. -/
def read (w : Workspace) (path : String) : Except FileError String :=
  match w.locate path with
  | .error fault => .error ⟨fault, path, none⟩
  | .ok place =>
    match w.tree.find? place with
    | some (.file text) => .ok text
    | some (.directory _) => .error ⟨.isADirectory, path, none⟩
    | none => .error ⟨.notFound, path, none⟩

/-- Gives a file a text; the file is made if need be, but not its directory. -/
def write (w : Workspace) (path text : String) : Except FileError Workspace :=
  match w.locate path with
  | .error fault => .error ⟨fault, path, none⟩
  | .ok place =>
    match w.tree.find? place with
    | some (.directory _) => .error ⟨.isADirectory, path, none⟩
    | _ => .ok { w with tree := w.tree.put place (.file text) }

/-- Takes a file out. -/
def delete (w : Workspace) (path : String) : Except FileError Workspace :=
  match w.locate path with
  | .error fault => .error ⟨fault, path, none⟩
  | .ok place =>
    match w.tree.find? place with
    | none => .error ⟨.notFound, path, none⟩
    | some (.directory _) => .error ⟨.isADirectory, path, none⟩
    | some (.file _) => .ok { w with tree := w.tree.remove place }

/-- Moves a file to where another one may be, which is then lost. -/
def move (w : Workspace) (path target : String) : Except FileError Workspace := do
  let failed (fault : FileFault) : FileError := ⟨fault, path, some target⟩
  let origin ← (w.locate path).mapError failed
  let goal ← (w.locate target).mapError failed
  match w.tree.find? origin with
  | none => .error (failed .notFound)
  | some (.directory _) => .error (failed .isADirectory)
  | some (.file text) =>
    if Path.lastSegment target = ".." then .error (failed .busy)
    else
      match w.tree.find? goal with
      | some (.directory _) => .error (failed .isADirectory)
      | _ => return { w with tree := (w.tree.remove origin).put goal (.file text) }

/-- Writes a file, with the directories that it is in. -/
def provide (w : Workspace) (path text : String) : Workspace :=
  let names := Path.names (w.absolute path)
  { w with tree := w.tree.put names (.file text) }

/-- Makes a directory, with those that it is in, unless it is there. -/
def provideDirectory (w : Workspace) (path : String) : Workspace :=
  let names := Path.names (w.absolute path)
  match w.tree.find? names with
  | some _ => w
  | none => { w with tree := w.tree.put names (.directory []) }

/-- The empty working directory at a path. -/
def empty (path : String) : Workspace :=
  let names := Path.names path
  ⟨(FileTree.directory []).put names (.directory []), names⟩

end Workspace

end TypedManifests
