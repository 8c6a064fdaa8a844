/-
Module: TypedManifests.TypeExpr.Token
Purpose: The tokens of a type's text. A bare word begins with a letter or an underscore and runs on
  over letters, numerals, `_`, `-` and `/`. Between two backticks any label may stand on one line;
  it is never one of the words `List` and `Optional`.
Main exports: TokenKind, Token, symbolKind?, isLabelStart, isLabelChar, wordKind
-/
import TypedManifests.Text.CharacterClass
import TypedManifests.Text.Position

namespace TypedManifests.TypeExpr

open TypedManifests.Text

inductive TokenKind where
  | openBrace | closeBrace | colon | comma | openParen | closeParen
  /-- The bare word `List`. -/
  | listWord
  /-- The bare word `Optional`. -/
  | optionalWord
  /-- Any other bare word, or a label in backticks. -/
  | name
deriving DecidableEq, Repr, Inhabited

/-- A token; `text` is its spelling, for a label in backticks the text between them. -/
structure Token where
  kind : TokenKind
  text : String
  position : Position
deriving DecidableEq, Repr, Inhabited

/-- Opens and closes a quoted label. -/
def backtick : Char := '\x60'

/-- The kind of a character that is a token by itself. -/
def symbolKind? : Char → Option TokenKind
  | '{' => some .openBrace
  | '}' => some .closeBrace
  | ':' => some .colon
  | ',' => some .comma
  | '(' => some .openParen
  | ')' => some .closeParen
  | _ => none

def isLabelStart (c : Char) : Bool :=
  c = '_' || isLetter c

def isLabelChar (c : Char) : Bool :=
  c = '_' || c = '-' || c = '/' || isAlphanumeric c

/-- The kind of a bare word. -/
def wordKind (word : String) : TokenKind :=
  if word = "List" then .listWord else if word = "Optional" then .optionalWord else .name

/-- The words that are no scalar's name. -/
def isKeyword (word : String) : Bool := wordKind word ≠ .name

/-- A field may be labelled by any word, also by `List` and `Optional`. -/
def TokenKind.isLabel : TokenKind → Bool
  | .name | .listWord | .optionalWord => true
  | _ => false

end TypedManifests.TypeExpr
