/-
Module: TypedManifests.Yaml.Cursor
Purpose: A place in a text that is being read: what is left of it, and how far the reading has come.
  Lines end with a line feed, a carriage return, or both together; the byte order mark takes no
  column.
Main exports: Cursor, Progress, Cursor.next, Cursor.skip, Cursor.iterate, Cursor.lineBreak?
-/

namespace TypedManifests.Yaml

structure Cursor where
  rest : List Char
  /-- How many characters are left. -/
  left : Nat
  index : Nat
  line : Nat
  column : Nat
  left_eq : left = rest.length
deriving Repr

/-- What one step of a reading comes to. -/
inductive Progress (α : Type) where
  /-- The reading goes on from the cursor. -/
  | more (a : α) (c : Cursor)
  /-- The reading ends at the cursor. -/
  | done (a : α) (c : Cursor)

namespace Cursor

def ofText (text : String) : Cursor := ⟨text.toList, _, 0, 0, 0, rfl⟩

instance : Inhabited Cursor := ⟨ofText ""⟩

/-- What stands for the character after the last one. -/
def endMark : Char := '\x00'

/-- The character `i` places ahead. -/
def peek (c : Cursor) (i : Nat) : Char := c.rest.getD i endMark

/-- The character under the cursor. -/
def char (c : Cursor) : Char := c.peek 0

/-- The text goes on with `word`. -/
def looksAt (c : Cursor) (word : String) : Bool := word.toList.isPrefixOf c.rest

/-- One character further. -/
def next (c : Cursor) : Cursor :=
  match h : c.rest with
  | [] => c
  | d :: rest =>
    have left_eq : c.left - 1 = rest.length := by simp [c.left_eq, h]
    if d = '\n' ∨ (d = '\r' ∧ rest.head? ≠ some '\n') then
      ⟨rest, c.left - 1, c.index + 1, c.line + 1, 0, left_eq⟩
    else
      let column := if d = '\ufeff' then c.column else c.column + 1
      ⟨rest, c.left - 1, c.index + 1, c.line, column, left_eq⟩

/-- `n` characters further. -/
def skip : Nat → Cursor → Cursor
  | 0, c => c
  | n + 1, c => skip n c.next

/-- The characters ahead that have the property, and the cursor after them. -/
def span (p : Char → Bool) (c : Cursor) : List Char × Cursor :=
  let taken := c.rest.takeWhile p
  (taken, skip taken.length c)

def skipWhile (p : Char → Bool) (c : Cursor) : Cursor := (c.span p).2

/-- Repeats a step as long as it asks for more. A step that asks for more without having moved the
cursor is refused. -/
def iterate (step : α → Cursor → Option (Progress α)) (a : α) (c : Cursor) : Option (α × Cursor) :=
  match step a c with
  | none => none
  | some (.done a c) => some (a, c)
  | some (.more a' c') =>
    if c'.left < c.left then iterate step a' c' else none
termination_by c.left

/-- The end of the text or of a line. -/
def isLineEnd (d : Char) : Bool := d = '\n' || d = endMark || d = '\r' || d = '\x85'

def isTabOrSpace (d : Char) : Bool := d = ' ' || d = '\t'

/-- The end of the text or of a line, a blank or a tab. -/
def isGap (d : Char) : Bool := isLineEnd d || isTabOrSpace d

/-- A line break of any kind. -/
def isBreak (d : Char) : Bool :=
  d = '\n' || d = '\r' || d = '\x85' || d = '\u2028' || d = '\u2029'

/-- What has to follow names and numbers that stand alone. -/
def isBlankOrBreak (d : Char) : Bool := d = endMark || d = ' ' || isBreak d

/-- The line break under the cursor as it counts in the text, and the cursor after it. -/
def lineBreak? (c : Cursor) : Option (Char × Cursor) :=
  if c.char = '\r' ∧ c.peek 1 = '\n' then some ('\n', c.skip 2)
  else if c.char = '\r' ∨ c.char = '\n' ∨ c.char = '\x85' then some ('\n', c.next)
  else if c.char = '\u2028' ∨ c.char = '\u2029' then some (c.char, c.next)
  else none

/-- The mark that starts or ends a document, and a gap, are under the cursor. -/
def looksAtMark (c : Cursor) (mark : String) : Bool := c.looksAt mark && isGap (c.peek 3)

/-- A mark that starts or ends a document is under the cursor. -/
def looksAtDocumentMark (c : Cursor) : Bool := c.looksAtMark "---" || c.looksAtMark "..."

def skipSpaces (c : Cursor) : Cursor := c.skipWhile (· = ' ')

def skipToLineEnd (c : Cursor) : Cursor := c.skipWhile fun d => !isLineEnd d

/-- Skips the rest of a line, which holds nothing but blanks and a comment, and its end. -/
def skipBlankLine? (c : Cursor) : Option Cursor :=
  let c := c.skipSpaces
  let c := if c.char = '#' then c.skipToLineEnd else c
  if isLineEnd c.char then some ((c.lineBreak?.map Prod.snd).getD c) else none

end Cursor

end TypedManifests.Yaml
