/-
Module: TypedManifests.Text.Words
Purpose: Title case: the first character of each word in upper case, all else as it is. And text
  without the white space around it.
Main exports: titleCase, trim
-/
import TypedManifests.Text.CharacterClass

namespace TypedManifests.Text

/-- Puts the characters that begin a word into upper case; `inWord` says whether a word is already
under way. -/
def capitalizeWords (inWord : Bool) : List Char → List Char
  | [] => []
  | c :: rest =>
    (if isWordChar c && !inWord then upperCase c else [c]) ++ capitalizeWords (isWordChar c) rest

def titleCase (text : String) : String := String.ofList (capitalizeWords false text.toList)

/-- The text without white space at its ends. -/
def trim (text : String) : String :=
  String.ofList (((text.toList.dropWhile isBlank).reverse.dropWhile isBlank).reverse)

end TypedManifests.Text
