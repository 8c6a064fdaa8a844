/-
Module: TypedManifests.ImageReference
Purpose: References to container images, as in `ghcr.io/org/app:v1@sha256:…`: an optional registry,
  a repository, an optional tag and an optional digest.
Main exports: ImageReference, ImageReference.ofText, ImageReference.toText, ImageReference.toValue,
  ImageReference.type
-/
import TypedManifests.Text.Split
import TypedManifests.TypeExpr.Basic
import TypedManifests.Value.Basic

namespace TypedManifests

open TypedManifests.Text

structure ImageReference where
  registry : Option String
  repository : String
  tag : Option String
  digest : Option String
deriving DecidableEq, Repr, Inhabited

namespace ImageReference

/-- The first segment of a reference names a registry if it looks like a host: it has a dot or a
colon, or is `localhost`. -/
def isRegistry (segment : List Char) : Bool :=
  '.' ∈ segment || ':' ∈ segment || segment = "localhost".toList

/-- The text, unless it is empty. -/
def nonEmpty? (text : List Char) : Option String :=
  if text.isEmpty then none else some (String.ofList text)

/-- Cuts off the tag: what follows the last colon, unless a slash comes after that colon. -/
def splitTag (text : List Char) : List Char × Option String :=
  match splitLast? ':' text with
  | some (before, after) => if '/' ∈ after then (text, none) else (before, nonEmpty? after)
  | none => (text, none)

/-- Cuts off the registry and the slash after it. -/
def splitRegistry (text : List Char) : Option String × List Char :=
  match splitFirst? '/' text with
  | some (first, rest) =>
    if isRegistry first then (some (String.ofList first), rest) else (none, text)
  | none => (none, text)

/-- The parts of a reference. The digest follows the first `@`. -/
def ofText (reference : String) : ImageReference :=
  let (named, digest) := (splitFirst? '@' reference.toList).getD (reference.toList, [])
  let (path, tag) := splitTag named
  let (registry, repository) := splitRegistry path
  { registry, repository := String.ofList repository, tag, digest := nonEmpty? digest }

/-- The reference with the given parts. -/
def toText (r : ImageReference) : String :=
  (match r.registry with | some registry => registry ++ "/" | none => "") ++ r.repository ++
    (match r.tag with | some tag => ":" ++ tag | none => "") ++
    (match r.digest with | some digest => "@" ++ digest | none => "")

/-- The parts as a mapping, with or without the digest. -/
def toValue (withDigest : Bool) (r : ImageReference) : Value :=
  .ofFields <|
    [("registry", .ofText? r.registry), ("repository", .text r.repository),
     ("tag", .ofText? r.tag)] ++
      (if withDigest then [("digest", .ofText? r.digest)] else [])

/-- The type of such a mapping. -/
def type (withDigest : Bool) : TypeExpr :=
  .record <|
    [("registry", .optional .text), ("repository", .text), ("tag", .optional .text)] ++
      (if withDigest then [("digest", .optional .text)] else [])

end ImageReference

end TypedManifests
