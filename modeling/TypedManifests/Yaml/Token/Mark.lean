/-
Module: TypedManifests.Yaml.Token.Mark
Purpose: What may stand before a node or a document: anchors and aliases, tags, and directives.
Main exports: anchorName?, tag?, directive?
-/
import TypedManifests.Number.Reading
import TypedManifests.Yaml.Cursor
import TypedManifests.Yaml.Token.Basic

namespace TypedManifests.Yaml.Cursor

open TypedManifests.Text

/-! ### Anchors -/

/-- A character of an anchor's name. -/
def isNameChar (d : Char) : Bool :=
  !",[]\x7b\x7d".contains d &&
    (('!' ≤ d && d ≤ '~') || ('\xa0' ≤ d && d ≠ '\ufeff' && d ≠ '\ufffe' && d ≠ '\uffff'))

/-- The name of an anchor or of an alias; the cursor is on the mark before it. -/
def anchorName? (c : Cursor) : Option (String × Cursor) :=
  let (name, c) := c.next.span isNameChar
  let d := c.char
  if name.isEmpty then none
  else if isGap d || isBreak d || ",[]\x7b\x7d".contains d then some (String.ofList name, c)
  else none

/-! ### Tags -/

def isHandleChar (d : Char) : Bool := isAsciiLetter d || isAsciiDigit d || d = '-' || d = '_'

/-- The handle of a tag: an exclamation mark, or a name between two of them. -/
def tagHandle? (c : Cursor) : Option (String × Cursor) :=
  if c.char ≠ '!' then none
  else if c.peek 1 = ' ' then some ("!", c.next)
  else
    let (name, c) := c.next.span isHandleChar
    if c.char = '!' then some (String.ofList ('!' :: name ++ ['!']), c.next) else none

/-- A character that stands for itself in a tag. -/
def isTagChar (version : Version) (d : Char) : Bool :=
  isAsciiLetter d || isAsciiDigit d || "-;/?:@&=+$,_.!~*'()[]".contains d ||
    version ≠ .v11 && d = '#'

/-- The text of a tag; a percent sign and two digits stand for the character with that code. -/
def tagText? (version : Version) (c : Cursor) : Option (String × Cursor) :=
  (iterate (fun (text : List Char) c =>
    if isTagChar version c.char then
      let (run, after) := c.span (isTagChar version)
      some (.more (text ++ run) after)
    else if c.char = '%' then
      (Number.ofDigits? 16 (c.next.rest.take 2)).bind fun code =>
        if c.left < 3 then none else some (.more (text ++ [Char.ofNat code]) (c.skip 3))
    else some (.done text c))
    [] c).bind fun (text, c) => if text.isEmpty then none else some (String.ofList text, c)

/-- The tag begins with a handle: a second exclamation mark comes before the next blank. -/
def hasHandle (c : Cursor) : Bool :=
  match c.next.rest.find? fun d => d = '!' || isBlankOrBreak d with
  | some d => d = '!'
  | none => false

/-- A tag; the cursor is on the exclamation mark. -/
def tag? (version : Version) (c : Cursor) : Option (WrittenTag × Cursor) := do
  let (tag, c) ←
    if c.peek 1 = '<' then do
      let (suffix, c) ← tagText? version (c.skip 2)
      if c.char = '>' then pure (WrittenTag.mk none suffix, c.next) else none
    else if isGap (c.peek 1) then pure (WrittenTag.mk none "!", c.next)
    else do
      let (handle, c) ← if hasHandle c then tagHandle? c else some ("!", c.next)
      let (suffix, c) ← tagText? version c
      pure (WrittenTag.mk (some handle) suffix, c)
  if isBlankOrBreak c.char then return (tag, c) else none

/-! ### Directives -/

def isDirectiveChar (d : Char) : Bool :=
  isAsciiLetter d || isAsciiDigit d || "-_:.".contains d

def number? (c : Cursor) : Option (Nat × Cursor) :=
  let (digits, c) := c.span isAsciiDigit
  (Number.ofDigits? 10 digits).map fun n => (n, c)

/-- Two numbers with a point between. -/
def versionNumber? (c : Cursor) : Option (Token × Cursor) := do
  let (major, c) ← number? c.skipSpaces
  if c.char ≠ '.' then none
  let (minor, c) ← number? c.next
  if isBlankOrBreak c.char then return (.versionDirective major minor, c) else none

/-- A handle and what it stands for. -/
def handleMeaning? (version : Version) (c : Cursor) : Option (Token × Cursor) := do
  let (handle, c) ← tagHandle? c.skipSpaces
  if c.char ≠ ' ' then none
  let (meaning, c) ← tagText? version c.skipSpaces
  if isBlankOrBreak c.char then return (.tagDirective handle meaning, c) else none

/-- A directive as far as the end of its line; the cursor is on the percent sign. -/
def directive? (version : Version) (c : Cursor) : Option (Token × Cursor) := do
  let (name, c) := c.next.span isDirectiveChar
  if name.isEmpty || !isBlankOrBreak c.char then none
  let (token, c) ←
    if name = "YAML".toList then versionNumber? c
    else if name = "TAG".toList then handleMeaning? version c
    else some (.otherDirective, c.skipToLineEnd)
  return (token, ← c.skipBlankLine?)

end TypedManifests.Yaml.Cursor
