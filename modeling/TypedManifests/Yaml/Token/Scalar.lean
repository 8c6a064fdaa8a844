/-
Module: TypedManifests.Yaml.Token.Scalar
Purpose: Scalars of YAML text: plain ones, quoted ones, and blocks of lines. A line break inside a
  plain or a quoted scalar counts as a blank, and `n` breaks in a row as `n - 1` breaks.
Main exports: plainScalar, quotedScalar, blockHeader?, blockScalar
-/
import TypedManifests.Yaml.Cursor
import TypedManifests.Yaml.ScalarKind
import TypedManifests.Number.Reading

namespace TypedManifests.Yaml.Cursor

/-! ### Plain scalars -/

/-- Line breaks and blanks from the start of a line on. Nothing may follow a document mark, which is
told by `false`. -/
def plainBreaks (c : Cursor) : Option ((Bool × List Char) × Cursor) :=
  iterate (fun ((_, breaks) : Bool × List Char) c =>
    if c.char = ' ' then some (.more (true, breaks) c.next)
    else
      match c.lineBreak? with
      | some (b, after) =>
        if after.looksAtDocumentMark then some (.done (false, breaks ++ [b]) after)
        else some (.more (true, breaks ++ [b]) after)
      | none => some (.done (true, breaks) c))
    (true, []) c

/-- What several line breaks in a row count as: `first` is a line feed, or a break that is kept. -/
def foldedBreaks (first : Char) (breaks : List Char) : List Char :=
  if first ≠ '\n' then first :: breaks
  else if breaks.isEmpty then [' ']
  else breaks

/-- What stands between two words of a plain scalar, whether a line was ended, and the cursor after
it. There is nothing between if the scalar ends here. -/
def plainGap (c : Cursor) : Option ((List Char × Bool) × Cursor) :=
  let (blanks, c) := c.span (· = ' ')
  match c.lineBreak? with
  | none => some ((blanks, false), c)
  | some (first, after) =>
    if after.looksAtDocumentMark then some (([], true), after)
    else
      (plainBreaks after).map fun ((goesOn, breaks), c) =>
        ((if goesOn then foldedBreaks first breaks else [], true), c)

/-- The characters of one word of a plain scalar. A colon ends it only before a gap, and in brackets
and braces commas and brackets end it, in version 1.1 also a question mark. -/
def plainWord (version : Version) (inFlow : Bool) : List Char → List Char
  | [] => []
  | d :: rest =>
    let following := rest.headD endMark
    let ends :=
      if d = ':' && !isGap following then false
      else if d = '?' && version ≠ .v11 then false
      else
        isGap d || d = ':' && (!inFlow && isGap following) ||
          inFlow && ",:?[]\x7b\x7d".contains d
    if ends then [] else d :: plainWord version inFlow rest

/-- A plain scalar, and whether it ends after a line break. Outside of brackets and braces its
further lines are indented by `indent` at least. -/
def plainScalar (version : Version) (inFlow : Bool) (indent : Int) (c : Cursor) :
    Option ((List Char × Bool) × Cursor) :=
  (iterate (fun ((text, gap, endsLine) : List Char × List Char × Bool) c =>
    if c.char = '#' then some (.done (text, gap, endsLine) c)
    else
      let word := plainWord version inFlow c.rest
      if word.isEmpty then some (.done (text, gap, endsLine) c)
      else
        let text := text ++ gap ++ word
        match (c.skip word.length).plainGap with
        | none => none
        | some ((gap, endsLine), c) =>
          if gap.isEmpty ∨ c.char = '#' ∨ (!inFlow ∧ (c.column : Int) < indent) then
            some (.done (text, gap, endsLine) c)
          else some (.more (text, gap, endsLine) c))
    ([], [], false) c).map fun ((text, _, endsLine), c) => ((text, endsLine), c)

/-! ### Quoted scalars -/

/-- The character that a letter stands for after a backslash. -/
def shortEscape? : Char → Option Char
  | '0' => some '\x00'
  | 'a' => some '\x07'
  | 'b' => some '\x08'
  | 't' => some '\t'
  | '\t' => some '\t'
  | 'n' => some '\n'
  | 'v' => some '\x0b'
  | 'f' => some '\x0c'
  | 'r' => some '\r'
  | 'e' => some '\x1b'
  | ' ' => some ' '
  | '"' => some '"'
  | '/' => some '/'
  | '\\' => some '\\'
  | 'N' => some '\x85'
  | '_' => some '\xa0'
  | 'L' => some '\u2028'
  | 'P' => some '\u2029'
  | _ => none

/-- How many digits the code point has after a backslash and a letter. -/
def codeLength? : Char → Option Nat
  | 'x' => some 2
  | 'u' => some 4
  | 'U' => some 8
  | _ => none

/-- A code point of `n` digits. -/
def codePoint? (n : Nat) (c : Cursor) : Option (Nat × Cursor) :=
  if c.left < n then none
  else (Number.ofDigits? 16 (c.rest.take n)).map fun code => (code, c.skip n)

/-- The second half of a character that is written as two code units. -/
def lowSurrogate? (c : Cursor) : Option (Nat × Cursor) :=
  if c.looksAt "\\u" then
    (codePoint? 4 (c.skip 2)).filter fun (code, _) => 0xdc00 ≤ code && code ≤ 0xdfff
  else none

/-- The character with the code `code`, the first half of which may have been read. -/
def charOfCode? (code : Nat) (c : Cursor) : Option (Char × Cursor) :=
  if h : code.isValidChar then some (Char.ofNatAux code h, c)
  else if code < 0xdc00 then
    (lowSurrogate? c).map fun (low, c) =>
      (Char.ofNat (0x10000 + (code - 0xd800) * 0x400 + (low - 0xdc00)), c)
  else none

/-- Line breaks and blanks from the start of a line on; a document mark may not stand here. -/
def quotedBreaks (c : Cursor) : Option (List Char × Cursor) :=
  iterate (fun (breaks : List Char) c =>
    if c.looksAtDocumentMark then none
    else
      let c' := c.skipWhile isTabOrSpace
      match c'.lineBreak? with
      | some (b, after) => some (.more (breaks ++ [b]) after)
      | none => some (.done breaks c'))
    [] c

/-- What a backslash and the characters after it stand for; the cursor is on the backslash. -/
def escape? (c : Cursor) : Option (List Char × Cursor) :=
  let c := c.next
  match shortEscape? c.char, codeLength? c.char, c.lineBreak? with
  | some d, _, _ => some ([d], c.next)
  | none, some n, _ => do
    let (code, c) ← codePoint? n c.next
    let (d, c) ← charOfCode? code c
    return ([d], c)
  | none, none, some (_, after) => quotedBreaks after
  | none, none, none => none

/-- Blanks in a quoted scalar, which vanish around line breaks. -/
def quotedGap (c : Cursor) : Option (List Char × Cursor) :=
  let (blanks, c) := c.span isTabOrSpace
  match c.lineBreak? with
  | some (first, after) =>
    (quotedBreaks after).map fun (breaks, c) => (foldedBreaks first breaks, c)
  | none => some (blanks, c)

/-- A quoted scalar; the cursor is on the first quote. In double quotes a backslash has a meaning,
and in single quotes two of them stand for one. -/
def quotedScalar (quote : Char) (c : Cursor) : Option (List Char × Cursor) :=
  iterate (fun (text : List Char) c =>
    let d := c.char
    if d = endMark then none
    else if d = quote then
      if quote = '\'' ∧ c.peek 1 = '\'' then some (.more (text ++ ['\'']) (c.skip 2))
      else some (.done text c.next)
    else if isTabOrSpace d ∨ isBreak d then
      (quotedGap c).map fun (gap, c) => .more (text ++ gap) c
    else if d = '\\' ∧ quote = '"' then (escape? c).map fun (cs, c) => .more (text ++ cs) c
    else
      let (run, after) := c.next.span fun e =>
        !(isTabOrSpace e || isBreak e || e = '\'' || e = '"' || e = '\\')
      some (.more (text ++ d :: run) after))
    [] c.next

/-! ### Blocks of lines -/

/-- What becomes of the line breaks at the end of a block: one is kept, all are, or none is. -/
inductive Chomping where
  | clip | keep | strip
deriving DecidableEq, Repr

/-- The sign of a block's header. -/
def chomping? (d : Char) : Option Chomping :=
  if d = '+' then some .keep else if d = '-' then some .strip else none

/-- The digit of a block's header, which is not zero; it tells how far the lines are indented. -/
def increment? (c : Cursor) : Option (Option Nat × Cursor) :=
  if Text.isAsciiDigit c.char then
    if c.char = '0' then none else some (some (c.char.toNat - '0'.toNat), c.next)
  else some (none, c)

/-- The header of a block, as far as the end of its line: a sign and a digit in any order. -/
def blockHeader? (c : Cursor) : Option ((Chomping × Option Nat) × Cursor) := do
  let (header, c) ←
    match chomping? c.char with
    | some sign => do
      let (increment, c) ← increment? c.next
      pure ((sign, increment), c)
    | none => do
      let (increment, c) ← increment? c
      match increment, chomping? c.char with
      | some _, some sign => pure ((sign, increment), c.next)
      | _, _ => pure ((.clip, increment), c)
  if isBlankOrBreak c.char then (skipBlankLine? c).map fun c => (header, c) else none

/-- The line breaks before the first line of a block, and how far that line is indented. No line may
be indented further than the lines after it if it holds blanks only. -/
def blockIndentation (c : Cursor) : Option ((List Char × Nat) × Cursor) :=
  (iterate (fun ((breaks, first, deepest) : List Char × Option Nat × Nat) c =>
    if c.char = ' ' then some (.more (breaks, first, max deepest c.next.column) c.next)
    else
      match c.lineBreak? with
      | some (b, after) => some (.more (breaks ++ [b], some (first.getD c.column), deepest) after)
      | none => some (.done (breaks, first, deepest) c))
    ([], none, 0) c).bind fun ((breaks, first, deepest), c) =>
      if 0 < first.getD 0 ∧ first.getD 0 < deepest then none else some ((breaks, deepest), c)

/-- Skips blanks, but not beyond the column `indent`. -/
def skipIndent (indent : Nat) (c : Cursor) : Cursor :=
  c.skip (min ((c.rest.takeWhile (· = ' ')).length) (indent - c.column))

/-- The line breaks before the next line of a block. -/
def blockBreaks (indent : Nat) (c : Cursor) : Option (List Char × Cursor) :=
  iterate (fun (breaks : List Char) c =>
    let c' := c.skipIndent indent
    match c'.lineBreak? with
    | some (b, after) => some (.more (breaks ++ [b]) after)
    | none => some (.done breaks c'))
    [] c

/-- The lines of a block as far as they have been read. -/
structure BlockLines where
  text : List Char
  /-- The break at the end of the last line. -/
  lineBreak : List Char
  /-- The breaks of the empty lines after it. -/
  breaks : List Char

/-- The text of one line and all that follows it as far as the next line. In a folded block a line
break between two lines that begin with no blank counts as a blank. -/
def blockLine (folded : Bool) (indent : Nat) (lines : BlockLines) (c : Cursor) :
    Option (Progress BlockLines) :=
  if c.column ≠ indent ∨ c.char = endMark then some (.done lines c)
  else
    let startsWithBlank := isTabOrSpace c.char
    let (line, c) := c.span fun d => !isLineEnd d
    let text := lines.text ++ lines.breaks ++ line
    let (lineBreak, c) :=
      match c.lineBreak? with
      | some (b, after) => ([b], after)
      | none => ([], c)
    match blockBreaks indent c with
    | none => none
    | some (breaks, c) =>
      if (indent = 0 ∧ c.looksAtDocumentMark) ∨ c.column ≠ indent ∨ c.char = endMark then
        some (.done ⟨text, lineBreak, breaks⟩ c)
      else
        let folds := folded && lineBreak = ['\n'] && !startsWithBlank && !isTabOrSpace c.char
        let between := if !folds then lineBreak else if breaks.isEmpty then [' '] else []
        some (.more ⟨text ++ between, lineBreak, breaks⟩ c)

/-- A block; the cursor is on the character that tells its kind, and `parentIndent` is the column of
the collection around it, `-1` if there is none. -/
def blockScalar (folded : Bool) (parentIndent : Int) (c : Cursor) :
    Option (List Char × Cursor) := do
  let ((chomping, increment), c) ← blockHeader? c.next
  let least := (parentIndent + 1).toNat
  let ((breaks, indent), c) ←
    match increment with
    | none =>
      (blockIndentation c).map fun ((breaks, deepest), c) => ((breaks, max least deepest), c)
    | some n =>
      let indent := max least 1 + n - 1
      (blockBreaks indent c).map fun (breaks, c) => ((breaks, indent), c)
  let (lines, c) ← iterate (blockLine folded indent) ⟨[], [], breaks⟩ c
  let ending := match chomping with
    | .clip => lines.lineBreak
    | .keep => lines.lineBreak ++ lines.breaks
    | .strip => []
  return (lines.text ++ ending, c)

end TypedManifests.Yaml.Cursor
