/-
Module: TypedManifests.Yaml.Writer
Purpose: Values as YAML documents: one entry or item a line, two blanks for each level of mappings,
  and sequences set in by four with the dash at the third column. Empty collections are written in
  brackets or braces.
Main exports: textScalar, scalar, entryValue, sequence, mapping, document, Value.toYaml
-/
import TypedManifests.Value.Literal
import TypedManifests.Yaml.Style

namespace TypedManifests.Yaml.Writer

open TypedManifests.Text

/-- Lines are folded after this column where the text allows it. -/
def width : Nat := 4096

/-- A key is written on its own line from this length on; its type's name counts. -/
def longestKey : Nat := 128

/-- Numbers are written by place value from 10^-4 to below 10^16. -/
def decimalStyle : DecimalStyle := ⟨-4, 16, ".nan", ".inf"⟩

def blanks (n : Nat) : List Char := List.replicate n ' '

/-- A line break, then the next line as far as `indent`. -/
def newLine (indent : Nat) : List Char := '\n' :: blanks indent

/-! ### Scalars -/

/-- Cuts a text into runs of characters that agree on `p`. -/
def runs (p : Char → Bool) : List Char → List (Bool × List Char)
  | [] => []
  | c :: rest =>
    match runs p rest with
    | (b, run) :: more => if p c = b then (b, c :: run) :: more else (p c, [c]) :: (b, run) :: more
    | [] => [(p c, [c])]

/-- A plain text from `column` on. A single blank after the last column becomes a line break, and a
word too long for a line gets a line of its own. -/
def plainRuns (fold : Bool) (indent : Option Nat) (column : Nat) :
    List (Bool × List Char) → List Char
  | [] => []
  | (true, run) :: rest =>
    if fold ∧ run.length = 1 ∧ width < column then
      newLine (indent.getD 0) ++ plainRuns fold indent (indent.getD 0) rest
    else run ++ plainRuns fold indent (column + run.length) rest
  | (false, run) :: rest =>
    match indent with
    | some i =>
      if width < run.length ∧ i < column then
        newLine i ++ run ++ plainRuns fold indent (i + run.length) rest
      else run ++ plainRuns fold indent (column + run.length) rest
    | none => run ++ plainRuns fold indent (column + run.length) rest

def plain (fold : Bool) (indent : Option Nat) (column : Nat) (text : List Char) : List Char :=
  plainRuns fold indent column (runs Style.isSpace text)

/-- Apostrophes are written twice. -/
def doubleApostrophes (text : List Char) : List Char :=
  text.flatMap fun c => if c = '\'' then [c, c] else [c]

/-- What stands between single quotes; line breaks are kept by an empty line. -/
def singleRuns (fold : Bool) (indent column : Nat) (first : Bool) :
    List (Bool × List Char) → List Char
  | [] => []
  | (true, run) :: rest =>
    if run.all Style.isSpace then
      if fold ∧ run.length = 1 ∧ width < column ∧ !first ∧ !rest.isEmpty then
        newLine indent ++ singleRuns fold indent indent false rest
      else run ++ singleRuns fold indent (column + run.length) false rest
    else
      (if run.head? = some '\n' then ['\n'] else []) ++ run ++ blanks indent ++
        singleRuns fold indent indent false rest
  | (false, run) :: rest =>
    let written := doubleApostrophes run
    written ++ singleRuns fold indent (column + written.length) false rest

def singleQuoted (fold : Bool) (indent column : Nat) (text : List Char) : List Char :=
  '\'' :: singleRuns fold indent (column + 1) true
    (runs (fun c => Style.isSpace c || Style.isBreak c) text) ++ ['\'']

/-- The letter after the backslash for characters that have one. -/
def shortEscape? : Char → Option Char
  | '\x00' => some '0'
  | '\x07' => some 'a'
  | '\x08' => some 'b'
  | '\t' => some 't'
  | '\n' => some 'n'
  | '\x0b' => some 'v'
  | '\x0c' => some 'f'
  | '\r' => some 'r'
  | '\x1b' => some 'e'
  | '"' => some '"'
  | '\\' => some '\\'
  | '\x85' => some 'N'
  | '\u2028' => some 'L'
  | '\u2029' => some 'P'
  | _ => none

def upperHexadecimal (digits n : Nat) : List Char := (hexadecimal digits n).map Char.toUpper

/-- A character between double quotes. -/
def escape (c : Char) : List Char :=
  match shortEscape? c with
  | some letter => ['\\', letter]
  | none =>
    if (' ' ≤ c && c ≤ '~') || ('\xa0' ≤ c && c ≠ '\ufeff' && c ≠ '\ufffe' && c ≠ '\uffff') then [c]
    else if c.toNat ≤ 0xff then '\\' :: 'x' :: upperHexadecimal 2 c.toNat
    else if c.toNat ≤ 0xffff then '\\' :: 'u' :: upperHexadecimal 4 c.toNat
    else '\\' :: 'U' :: upperHexadecimal 8 c.toNat

/-- What stands between double quotes. After the last column the line is folded: a single blank
becomes the line break, and elsewhere a backslash keeps the break out of the text. -/
def doubleRest (fold : Bool) (indent column : Nat) (previous : Option Char) :
    List Char → List Char
  | [] => []
  | c :: rest =>
    let written := escape c
    let past := fold && previous.isSome && width < column && 1 < rest.length
    if past && c = ' ' then
      if previous ≠ some ' ' && rest.head? ≠ some ' ' then
        newLine indent ++ doubleRest fold indent indent (some c) rest
      else
        '\\' :: newLine indent ++ '\\' :: written ++
          doubleRest fold indent (indent + 1 + written.length) (some c) rest
    else written ++ doubleRest fold indent (column + written.length) (some c) rest

def doubleQuoted (fold : Bool) (indent column : Nat) (text : List Char) : List Char :=
  '"' :: doubleRest fold indent (column + 1) none text ++ ['"']

/-- A text as a scalar; `column` is where it begins and `indent` where its further lines do. -/
def textScalar (simpleKey : Bool) (indent : Option Nat) (column : Nat) (text : String) :
    List Char :=
  match Style.ofText simpleKey text with
  | .plain => plain (!simpleKey) indent column text.toList
  | .singleQuoted => singleQuoted (!simpleKey) (indent.getD 0) column text.toList
  | .doubleQuoted => doubleQuoted (!simpleKey) (indent.getD 0) column text.toList

/-- The text of a scalar other than text and null. -/
def scalarText : Value → String
  | .bool b => if b then "true" else "false"
  | .int i => toString i
  | .float x => decimalStyle.write x
  | .date d => d.iso
  | .time t => t.iso " "
  | _ => "null"

/-- A scalar other than null. -/
def scalar (simpleKey : Bool) (indent : Option Nat) (column : Nat) : Value → List Char
  | .text s => textScalar simpleKey indent column s
  | v => plain (!simpleKey) indent column (scalarText v).toList

/-- The short name of a scalar's type. -/
def typeName : Value → String
  | .text _ => "!!str"
  | .bool _ => "!!bool"
  | .int _ => "!!int"
  | .float _ => "!!float"
  | .date _ | .time _ => "!!timestamp"
  | _ => "!!null"

/-- A key that is written before a colon on one line: a short scalar without line breaks. -/
def isSimpleKey : Value → Bool
  | .list items => items.isEmpty
  | .map entries => entries.isEmpty
  | key =>
    let text := match key with
      | .text s => s
      | v => scalarText v
    (typeName key).length + text.length < longestKey && !Style.isMultiline text.toList

/-! ### Documents -/

/-- What is written where a node stands. -/
inductive Place where
  /-- After the colon of a key on its line. -/
  | afterKey
  /-- After the dash of an item, or after the mark of a key or value on a line of its own. -/
  | afterMark
deriving DecidableEq, Repr

mutual

/-- The value of an entry whose mapping stands at `indent`, from the place after the key on; the
line is ended. -/
def entryValue (indent column : Nat) : Value → List Char
  | .null => ['\n']
  | .list [] => " []\n".toList
  | .map [] => [' ', '\x7b', '\x7d', '\n']
  | .list items => '\n' :: sequence indent false items
  | .map entries => '\n' :: mapping (indent + 2) false entries
  | v => ' ' :: scalar false (some (indent + 2)) (column + 1) v ++ ['\n']

/-- A node after the mark that stands just before `column`, with its lines at `indent`. -/
def afterMark (indent column : Nat) : Value → List Char
  | .null => [' ', '\n']
  | .list [] => " []\n".toList
  | .map [] => [' ', '\x7b', '\x7d', '\n']
  | .list items => blanks (indent - column) ++ sequence indent true items
  | .map entries => blanks (indent - column) ++ mapping indent true entries
  | v => ' ' :: scalar false (some indent) (column + 1) v ++ ['\n']

/-- The items of a sequence at `indent`; the first one stands on the line that is already begun, if
`inline` says so. -/
def sequence (indent : Nat) (inline : Bool) : List Value → List Char
  | [] => []
  | v :: rest =>
    (if inline then [] else blanks indent) ++ "  -".toList ++
      afterMark (indent + 4) (indent + 3) v ++ sequence indent false rest

/-- The entries of a mapping at `indent`. -/
def mapping (indent : Nat) (inline : Bool) : List (Value × Value) → List Char
  | [] => []
  | (key, v) :: rest =>
    (if inline then [] else blanks indent) ++
      (if isSimpleKey key then
        let written := match key with
          | .list _ => "[]".toList
          | .map _ => ['\x7b', '\x7d']
          | _ => scalar true (some (indent + 2)) indent key
        written ++ ':' :: entryValue indent (indent + written.length + 1) v
      else
        '?' :: afterMark (indent + 2) (indent + 1) key ++ blanks indent ++
          ':' :: afterMark (indent + 2) (indent + 1) v) ++
      mapping indent false rest

end

/-- The scalar is written without quotes. -/
def isPlain : Value → Bool
  | .text s => Style.ofText false s = .plain
  | _ => true

/-- A value as a document. A plain scalar is followed by the mark that ends a document. -/
def document : Value → List Char
  | .null => "null\n...\n".toList
  | .list [] => "[]\n".toList
  | .map [] => ['\x7b', '\x7d', '\n']
  | .list items => sequence 0 false items
  | .map entries => mapping 0 false entries
  | v => scalar false none 0 v ++ '\n' :: (if isPlain v then "...\n".toList else [])

end TypedManifests.Yaml.Writer

namespace TypedManifests

/-- The YAML document of a value. -/
def Value.toYaml (v : Value) : String := String.ofList (Yaml.Writer.document v)

end TypedManifests
