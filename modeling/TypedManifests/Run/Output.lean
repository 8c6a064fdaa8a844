/-
Module: TypedManifests.Run.Output
Purpose: The files that a run writes.
Main exports: putInPlace, replaceFile, addBanner, writeGenerated
-/
import TypedManifests.Run.Encoder

/-!
Writing the files of a run. A file is replaced as a whole: its new text is written beside it and
then moved into its place, and if that fails nothing is left of it.
-/

namespace TypedManifests.Run

/-- What the name of a file that is not yet in place ends in. -/
def pendingEnding : String := ".kubedhall.tmp"

/-- The path beside `path`, which has a name at its end, with that name completed by `ending`. -/
def besidePath (path ending : String) : String :=
  Path.ofNames (Path.root path) ((Path.names path).dropLast ++ [Path.baseName path ++ ending])

/-- Takes the text that is not in place away, if there is one, and fails. -/
def abandon (pending : String) (e : RunError) : Run α := do
  if (← files).has pending then
    setFiles (← ofExcept .file ((← files).delete pending))
  fail e

/-- Writes a text under the path `pending` and moves it into its place; `refusal` tells how a fault
of that is reported. -/
def putInPlace (pending path text : String) (refusal : FileError → RunError) : Run Unit := do
  match (← files).write pending text with
  | .error cause => abandon pending (refusal cause)
  | .ok w => do
    setFiles w
    match (← files).move pending path with
    | .error cause => abandon pending (refusal cause)
    | .ok w => setFiles w

/-- Replaces a file as a whole. -/
def replaceFile (path : Value) (text : String) : Run Unit := do
  let path := Path.tidy (← ofExcept .shape path.asPath)
  let directory := Path.parentOf path
  if holdsZero directory then fail (.zeroInPath path)
  else if !(← files).has directory then fail (.noWriteAccess directory)
  else if Path.baseName path = "" then fail (.unnamedFile path)
  else if holdsZero path then fail (.notReplaced ⟨.zeroInPath, path, none⟩)
  else putInPlace (besidePath path pendingEnding) path text .notReplaced

/-- What the name of a file begins with that is only there until its text is in place. -/
def temporaryStart : String := "kubedhall"

/-- A name that is none of `taken`: it is longer than each of them. -/
def freshName (taken : List String) : String :=
  temporaryStart ++ String.ofList (List.replicate (taken.flatMap String.toList).length '_')

/-- The path beside `path` under a name that nothing in the tree has. Which one it is does not
matter, as the file does not stay. -/
def freshPath (tree : FileTree) (path : String) : String :=
  Path.ofNames (Path.root path) ((Path.names path).dropLast ++ [freshName tree.names])

/-- What generated files begin with. -/
def banner : String := "\x7b- Generated by kubedhall DO NOT EDIT -\x7d\n\n"

/-- Puts a banner in front of the text of a file, which is replaced as a whole. -/
def addBanner (path : Value) (banner : String) : Run Unit := do
  let path := Path.tidy (← ofExcept .shape path.asPath)
  if holdsZero path then fail (.zeroInPath path)
  else do
    let text ← readFile path
    putInPlace (freshPath (← files).tree path) path (banner ++ text) .file

/-- Writes a file of types or records, laid out and with the banner. -/
def writeGenerated (path : Value) (text : String) : Run Unit := do
  replaceFile path text
  format path
  addBanner path banner

end TypedManifests.Run
