/-
Module: TypedManifests.TypeExpr.ErrorMessage
Purpose: What is said of a text that denotes no type: the fault, where it is, and the line it stands
  in.
Main exports: LexError.message, ParseError.message, ReadError.message
-/
import TypedManifests.Text.Excerpt
import TypedManifests.Text.QuotedLiteral
import TypedManifests.TypeExpr.Parser

namespace TypedManifests.TypeExpr

open TypedManifests.Text

/-- `message`, with `context` on the lines after it unless that is empty. -/
def withContext (message context : String) : String :=
  if context = "" then message else message ++ "\n" ++ context

namespace LexError

/-- The UTF-8 length of what stands before the offending character of `source`. -/
def byteOffset (source : String) (e : LexError) : Nat :=
  (String.ofList (source.toList.take e.position.offset)).utf8ByteSize

/-- The line of `source` with the offending character. -/
def context (source : String) (e : LexError) : String :=
  excerpt source.toList e.position.offset excerptWidth

def describe : Cause → String
  | .unexpectedCharacter => "Unexpected character"
  | .unterminatedLabel => "Unterminated quoted label starting with"

def message (source : String) (e : LexError) : String :=
  withContext
    (s!"{describe e.cause} {quotedLiteral e.char.toString} at byte offset {e.byteOffset source} " ++
      s!"(line {e.position.line}, column {e.position.column})")
    (e.context source)

end LexError

namespace Expectation

/-- What was expected, in words. -/
def describe : Expectation → String
  | .recordAtRoot => "'\x7b'"
  | .typeExpr => "type"
  | .fieldLabel => "field label"
  | .otherLabel _ => "unique field label"
  | .colon => "':'"
  | .closeParen => "')'"
  | .commaOrBrace => "',' or '\x7d'"
  | .endOfText => "end of input"
  | .closeBrace => "'\x7d'"

/-- The fault, given what was met instead. -/
def complaint (actual : String) : Expectation → String
  | .recordAtRoot => "Expected a record type at the root, got " ++ actual
  | .typeExpr => "Expected a type, got " ++ actual
  | .fieldLabel => "Expected a field label, got " ++ actual
  | .otherLabel label => "Duplicate field '" ++ label ++ "' in record"
  | .endOfText => "Unexpected trailing " ++ actual
  | .closeBrace => "Unterminated record, missing '\x7d'"
  | e => "Expected " ++ e.describe ++ ", got " ++ actual

end Expectation

namespace ParseError

/-- The token that was met, as a literal. -/
def describeActual (e : ParseError) : String :=
  match e.actual with
  | none => "end of input"
  | some text => quotedLiteral text

/-- The line of `source` with the fault; nothing is shown of an empty source. -/
def context (source : String) (e : ParseError) : String :=
  if source = "" then "" else excerpt source.toList e.position.offset excerptWidth

def message (source : String) (e : ParseError) : String :=
  withContext
    s!"Line {e.position.line}, column {e.position.column}: {e.expected.complaint e.describeActual}"
    (e.context source)

end ParseError

def ReadError.message (source : String) : ReadError → String
  | .lex e => e.message source
  | .parse e => e.message source

end TypedManifests.TypeExpr
