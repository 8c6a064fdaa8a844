/-
Module: TypedManifests.TypeExpr.Printer
Purpose: The canonical text of a type, in two layouts: a block with one field a line, and one line.
  A name stands in backticks where it would not read back as itself.
Main exports: Layout, printLabel, printScalar, needsParens, print
-/
import TypedManifests.TypeExpr.Basic
import TypedManifests.TypeExpr.Token

namespace TypedManifests.TypeExpr

open TypedManifests.Text

inductive Layout where
  | block
  | oneLine
deriving DecidableEq, Repr

/-- Words with a meaning of their own, which are never bare labels. -/
def reservedWords : List String :=
  ["if", "then", "else", "let", "in", "as", "using", "merge", "missing",
   "Infinity", "NaN", "Some", "toMap", "assert", "forall", "with", "showConstructor",
   "Type", "Kind", "Sort", "Bool", "True", "False", "Optional", "None",
   "Natural", "Integer", "Double", "Text", "Date", "Time", "TimeZone", "List", "Bytes"]

def isSimpleStart (c : Char) : Bool :=
  c = '_' || isAsciiLetter c

def isSimpleChar (c : Char) : Bool :=
  c = '_' || c = '-' || c = '/' || isAsciiLetter c || isAsciiDigit c

/-- A label of ASCII letters, digits, `_`, `-` and `/` that begins with a letter or `_`. -/
def isSimpleLabel (label : String) : Bool :=
  match label.toList with
  | [] => false
  | c :: rest => isSimpleStart c && rest.all isSimpleChar

/-- The label is a reserved word, a slash and whatever follows, as in `List/length`. -/
def isReservedPath (label : String) : Bool :=
  '/' ∈ label.toList &&
    reservedWords.contains (String.ofList (label.toList.takeWhile (· ≠ '/')))

def inBackticks (label : String) : String :=
  backtick.toString ++ label ++ backtick.toString

/-- A label as it stands before a colon. -/
def printLabel (label : String) : String :=
  if isSimpleLabel label && !reservedWords.contains label && !isReservedPath label then label
  else inBackticks label

/-- A scalar's name as it stands in place of a type. -/
def printScalar (name : String) : String :=
  if isSimpleLabel name && !isKeyword name then name else inBackticks name

/-- Two spaces for each level of nesting. -/
def indentation (level : Nat) : String :=
  String.ofList (List.replicate (2 * level) ' ')

namespace Layout

/-- The level that the fields of a record at `level` stand at. -/
def fieldLevel : Layout → Nat → Nat
  | .block, level => level + 1
  | .oneLine, level => level

/-- From the opening brace to the first field. -/
def opening : Layout → Nat → String
  | .block, level => "\x7b\n" ++ indentation (level + 1)
  | .oneLine, _ => "\x7b "

/-- Between two fields. -/
def separator : Layout → Nat → String
  | .block, level => ",\n" ++ indentation (level + 1)
  | .oneLine, _ => ", "

/-- From the last field to the closing brace. -/
def closing : Layout → Nat → String
  | .block, level => "\n" ++ indentation level ++ "\x7d"
  | .oneLine, _ => " \x7d"

end Layout

/-- Lists and optional values need parentheses as arguments. -/
def needsParens : TypeExpr → Bool
  | .list _ | .optional _ => true
  | .scalar _ | .record _ => false

def inParens (text : String) : String :=
  "(" ++ text ++ ")"

mutual

/-- The text of a type that stands at the given level of nesting; the first line is not indented. -/
def print (layout : Layout) (level : Nat) : TypeExpr → String
  | .scalar name => printScalar name
  | .optional t => "Optional " ++ printArgument layout level t
  | .list t => "List " ++ printArgument layout level t
  | .record [] => "\x7b\x7d"
  | .record (field :: rest) =>
    layout.opening level ++ printFields layout level (field :: rest) ++ layout.closing level

/-- The text of the type that `List` or `Optional` is applied to. -/
def printArgument (layout : Layout) (level : Nat) (t : TypeExpr) : String :=
  if t.needsParens then inParens (print layout level t) else print layout level t

/-- The text of the fields of a record at `level`, without the braces. -/
def printFields (layout : Layout) (level : Nat) : Fields → String
  | [] => ""
  | (label, t) :: [] => printLabel label ++ " : " ++ print layout (layout.fieldLevel level) t
  | (label, t) :: field :: rest =>
    printLabel label ++ " : " ++ print layout (layout.fieldLevel level) t ++
      layout.separator level ++ printFields layout level (field :: rest)

end

end TypedManifests.TypeExpr
