/-
Module: TypedManifests.Files.Walk
Purpose: The manifest files of a tree, in the order in which they are read: first the files of a
  directory by their names, then those of its subdirectories, by their names too.
Main exports: Found, isManifestName, FileTree.manifestsBelow, FileTree.manifests
-/
import TypedManifests.Files.Tree
import TypedManifests.Path.Basic

namespace TypedManifests

/-- A file that was found: its path and its text. -/
abbrev Found := String × String

/-- What the names of manifest files end in. -/
def manifestEndings : List String := [".yaml", ".yml"]

def isManifestName (name : String) : Bool :=
  manifestEndings.any fun ending => ending.toList.isSuffixOf name.toList

namespace FileTree

/-- The directories or files of a directory in the order of their names. -/
def sortByName (entries : List (String × α)) : List (String × α) :=
  entries.mergeSort fun a b => a.1 ≤ b.1

/-- The manifest among the files of a directory, each with its name. -/
def ownManifests (ignored : String → Bool) (path : String)
    (entries : List (String × FileTree)) : List (String × Found) :=
  entries.filterMap fun (name, tree) =>
    let below := Path.join path name
    match tree with
    | .file text =>
      if isManifestName name ∧ !ignored below then some (name, below, text) else none
    | .directory _ => none

mutual

/-- The manifests of a directory at `path`. -/
def manifestsBelow (ignored : String → Bool) (path : String) : FileTree → List Found
  | .file _ => []
  | .directory entries =>
    (sortByName (ownManifests ignored path entries)).map Prod.snd ++
      (sortByName (manifestsOfEach ignored path entries)).flatMap Prod.snd

/-- The manifests of each subdirectory, with its name. -/
def manifestsOfEach (ignored : String → Bool) (path : String) :
    List (String × FileTree) → List (String × List Found)
  | [] => []
  | (name, tree) :: rest =>
    let below := Path.join path name
    let others := manifestsOfEach ignored path rest
    if ignored below then others else (name, manifestsBelow ignored below tree) :: others

end

/-- The manifests of a directory, or the file itself if its name is that of a manifest. -/
def manifests (ignored : String → Bool) (path : String) (tree : FileTree) : List Found :=
  if ignored path then []
  else
    match tree with
    | .file text => if isManifestName path then [(path, text)] else []
    | .directory entries => manifestsBelow ignored path (.directory entries)

end FileTree

end TypedManifests
