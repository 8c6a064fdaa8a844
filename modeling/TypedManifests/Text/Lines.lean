/-
Module: TypedManifests.Text.Lines
Purpose: Lines of text. A text that is read from a file has its line breaks written as line feeds; a
  text in memory is cut at breaks of every kind.
Main exports: asRead, dropByteOrderMark, lines
-/

namespace TypedManifests.Text

/-- Carriage returns, with or without a line feed after them, as line feeds. -/
def unifyBreaks : List Char → List Char
  | '\r' :: '\n' :: rest => '\n' :: unifyBreaks rest
  | '\r' :: rest => '\n' :: unifyBreaks rest
  | c :: rest => c :: unifyBreaks rest
  | [] => []

/-- The text of a file as it is read. -/
def asRead (text : String) : String := String.ofList (unifyBreaks text.toList)

/-- The text without the mark of byte order at its beginning. -/
def dropByteOrderMark (text : String) : String :=
  match text.toList with
  | '\ufeff' :: rest => String.ofList rest
  | _ => text

/-- A character that ends a line. -/
def isLineBreak (c : Char) : Bool :=
  (10 ≤ c.toNat && c.toNat ≤ 13) || (28 ≤ c.toNat && c.toNat ≤ 30) || c = '\x85' ||
    c = '\u2028' || c = '\u2029'

/-- The lines of a text from the middle of a line on, of which `line` has been read. -/
def linesFrom (line : List Char) : List Char → List (List Char)
  | [] => if line.isEmpty then [] else [line.reverse]
  | '\r' :: '\n' :: rest => line.reverse :: linesFrom [] rest
  | c :: rest =>
    if isLineBreak c then line.reverse :: linesFrom [] rest else linesFrom (c :: line) rest

/-- The lines of a text without their breaks. There is no line after a break at the end. -/
def lines (text : String) : List String := (linesFrom [] text.toList).map String.ofList

end TypedManifests.Text
