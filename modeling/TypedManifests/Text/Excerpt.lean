/-
Module: TypedManifests.Text.Excerpt
Purpose: A one-line excerpt of a text around an offset, with a caret under the character at the
  offset.
Main exports: excerpt, excerptWidth
-/

namespace TypedManifests.Text

/-- Offset of the first character of the line that holds `offset`. -/
def lineStart (source : List Char) (offset : Nat) : Nat :=
  let before := source.take offset
  before.length - (before.reverse.takeWhile (· ≠ '\n')).length

/-- Offset of the line feed that ends the line holding `offset`, or of the end of the text. -/
def lineEnd (source : List Char) (offset : Nat) : Nat :=
  min offset source.length + ((source.drop offset).takeWhile (· ≠ '\n')).length

/-- The part of the line that lies within `width` characters of `offset`, and below it a caret. -/
def excerpt (source : List Char) (offset : Nat) (width : Nat) : String :=
  let first := max (lineStart source offset) (offset - width)
  let last := min (lineEnd source offset) (offset + width)
  String.ofList
    ((source.take last).drop first ++ '\n' :: List.replicate (offset - first) ' ' ++ ['^'])

/-- Number of characters shown on each side in error messages. -/
def excerptWidth : Nat := 30

end TypedManifests.Text
