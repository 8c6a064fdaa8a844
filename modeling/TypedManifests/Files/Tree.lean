/-
Module: TypedManifests.Files.Tree
Purpose: Trees of files and directories. A place in a tree is given by the names from the top down.
Main exports: FileTree, Place, FileTree.find?, FileTree.put, FileTree.remove, FileTree.files
-/

namespace TypedManifests

inductive FileTree where
  | file (text : String)
  | directory (entries : List (String × FileTree))
deriving Repr

/-- The names that lead from the top of a tree to one of its places. -/
abbrev Place := List String

namespace FileTree

instance : Inhabited FileTree := ⟨.directory []⟩

/-- What is at a place. -/
def find? (tree : FileTree) (place : Place) : Option FileTree :=
  match place, tree with
  | [], tree => some tree
  | name :: rest, .directory entries =>
    match entries.lookup name with
    | some below => below.find? rest
    | none => none
  | _ :: _, .file _ => none
termination_by structural place

/-- The text of the file at a place. -/
def text? (tree : FileTree) (place : Place) : Option String :=
  match tree.find? place with
  | some (.file text) => some text
  | _ => none

/-- Gives an entry a new tree: in place of its old one, or as a new entry at the end. -/
def setEntry (name : String) (new : FileTree) :
    List (String × FileTree) → List (String × FileTree)
  | [] => [(name, new)]
  | (n, tree) :: rest => if n = name then (n, new) :: rest else (n, tree) :: setEntry name new rest

/-- Puts `new` at a place, with the directories that lead there. Nothing is put below a file. -/
def put (tree : FileTree) (place : Place) (new : FileTree) : FileTree :=
  match place, tree with
  | [], _ => new
  | name :: rest, .directory entries =>
    .directory (setEntry name (put ((entries.lookup name).getD default) rest new) entries)
  | _ :: _, .file text => .file text
termination_by structural place

/-- Takes out what is at a place. -/
def remove (tree : FileTree) (place : Place) : FileTree :=
  match place, tree with
  | [name], .directory entries => .directory (entries.filter fun entry => entry.1 ≠ name)
  | name :: rest, .directory entries =>
    match entries.lookup name with
    | some below => .directory (setEntry name (below.remove rest) entries)
    | none => .directory entries
  | _, tree => tree
termination_by structural place

mutual

/-- All files with their places. -/
def files : FileTree → List (Place × String)
  | .file text => [([], text)]
  | .directory entries => filesOf entries

def filesOf : List (String × FileTree) → List (Place × String)
  | [] => []
  | (name, tree) :: rest =>
    (files tree).map (fun (place, text) => (name :: place, text)) ++ filesOf rest

end

mutual

/-- The names of all entries, those of subdirectories included. -/
def names : FileTree → List String
  | .file _ => []
  | .directory entries => namesOf entries

def namesOf : List (String × FileTree) → List String
  | [] => []
  | (name, tree) :: rest => name :: (names tree ++ namesOf rest)

end

end FileTree

end TypedManifests
