/-
Module: TypedManifests.Yaml.Token.Lexer
Purpose: The lexer of YAML text.
Main exports: Lexing, Lexing.step, Lexing.run, Token.ofText
-/
import TypedManifests.Yaml.Token.Mark
import TypedManifests.Yaml.Token.Scalar

/-!
From text to tokens. What makes a scalar, an alias or a collection a key is the colon that follows
it on the same line, so each node that may be a key is remembered as a candidate, and the token for
a key is put in before it when the colon comes. Tokens that are read past an error are lost: then
the list does not end with the end of the stream.
-/

namespace TypedManifests.Yaml

/-- A node that is a key if a colon follows it. -/
structure Candidate where
  /-- How many tokens come before the node. -/
  number : Nat
  /-- Nothing but a key can stand here. -/
  required : Bool
  index : Nat
  line : Nat
  column : Nat
deriving Repr

/-- What encloses a collection that is not told by indentation. -/
inductive Bracket where
  | bracket | brace
deriving DecidableEq, Repr

/-- How far the reading of tokens has come. -/
structure Lexing where
  cursor : Cursor
  version : Version
  /-- The column of the block collection that is read, `-1` outside of all. -/
  indent : Int
  /-- The columns of the collections around it, innermost first. -/
  outerIndents : List Int
  /-- A key may begin at the cursor. -/
  keyAllowed : Bool
  /-- The candidate outside of all brackets. -/
  blockCandidate : Option Candidate
  /-- The brackets that are open, innermost first, and the candidate within each. -/
  brackets : List (Bracket × Option Candidate)
  /-- The tokens so far, the last one first. -/
  tokens : List Token
  finished : Bool

namespace Lexing

open Cursor

def start (version : Version) (text : String) : Lexing where
  cursor := .ofText text
  version
  indent := -1
  outerIndents := []
  keyAllowed := true
  blockCandidate := none
  brackets := []
  tokens := []
  finished := false

def inFlow (s : Lexing) : Bool := !s.brackets.isEmpty

def emit (token : Token) (s : Lexing) : Lexing := { s with tokens := token :: s.tokens }

/-- Puts a token in before all but the first `number` ones. -/
def insert (number : Nat) (token : Token) (s : Lexing) : Lexing :=
  { s with tokens := s.tokens.insertIdx (s.tokens.length - number) token }

/-! ### Candidates for keys -/

/-- The candidate within the innermost bracket. -/
def candidate (s : Lexing) : Option Candidate :=
  match s.brackets with
  | [] => s.blockCandidate
  | (_, c) :: _ => c

def setCandidate (candidate : Option Candidate) (s : Lexing) : Lexing :=
  match s.brackets with
  | [] => { s with blockCandidate := candidate }
  | (b, _) :: rest => { s with brackets := (b, candidate) :: rest }

def hasCandidate (s : Lexing) : Bool :=
  s.blockCandidate.isSome || s.brackets.any fun b => b.2.isSome

/-- A key has no more characters than this. -/
def longestKey : Nat := 1024

/-- The candidate is on an earlier line, or too long, to be a key. -/
def isStale (c : Cursor) (k : Candidate) : Bool :=
  k.line ≠ c.line || longestKey < c.index - k.index

/-- The candidate, if it can still be a key. -/
def refresh (c : Cursor) : Option Candidate → Option (Option Candidate)
  | some k => if !isStale c k then some (some k) else if k.required then none else some none
  | none => some none

/-- Drops the candidates that can no longer be keys. -/
def dropStale (s : Lexing) : Option Lexing := do
  let blockCandidate ← refresh s.cursor s.blockCandidate
  let brackets ← s.brackets.mapM fun (b, k) => (refresh s.cursor k).map fun k => (b, k)
  return { s with blockCandidate, brackets }

/-- Gives up the candidate within the innermost bracket. -/
def dropCandidate (s : Lexing) : Option Lexing :=
  if (s.candidate.map Candidate.required).getD false then none else some (s.setCandidate none)

/-- Makes the node at the cursor a candidate, if a key may begin here. -/
def saveCandidate (s : Lexing) : Option Lexing :=
  if !s.keyAllowed then some s
  else do
    let required := !s.inFlow && s.indent = s.cursor.column
    let s ← s.dropCandidate
    return s.setCandidate
      (some ⟨s.tokens.length, required, s.cursor.index, s.cursor.line, s.cursor.column⟩)

/-! ### Indentation -/

/-- Leaves the block collections whose column is above `column`. -/
def unwindTo (column : Int) (s : Lexing) : Lexing :=
  let rec go (indent : Int) (outer : List Int) (tokens : List Token) :
      Int × List Int × List Token :=
    if column < indent then
      match outer with
      | [] => (-1, [], .blockEnd :: tokens)
      | next :: rest => go next rest (.blockEnd :: tokens)
    else (indent, outer, tokens)
  let (indent, outerIndents, tokens) := go s.indent s.outerIndents s.tokens
  { s with indent, outerIndents, tokens }

/-- Enters a block collection at `column`, unless that is the column of the one that is read;
`begin` is put in after `number` tokens. -/
def enter (column number : Nat) (start : Token) (s : Lexing) : Lexing :=
  if s.indent < column then
    { s.insert number start with indent := column, outerIndents := s.indent :: s.outerIndents }
  else s

/-! ### One token -/

/-- Moves to the next token, over blanks, comments and line breaks. After a line break a key may
begin. Within brackets tabs are blanks too. -/
def skipToToken (s : Lexing) : Option Lexing :=
  let c := if s.cursor.index = 0 ∧ s.cursor.char = '\ufeff' then s.cursor.next else s.cursor
  (iterate (fun (keyAllowed : Bool) c =>
    let c := c.skipWhile fun d => d = ' ' || (s.inFlow && d = '\t')
    let c := if c.char = '#' then c.skipToLineEnd else c
    match c.lineBreak? with
    | some (_, after) => some (.more (keyAllowed || !s.inFlow) after)
    | none => some (.done keyAllowed c))
    s.keyAllowed c).map fun (keyAllowed, c) => { s with cursor := c, keyAllowed }

/-- The token for a single character. -/
def single (token : Token) (s : Lexing) : Lexing := { s.emit token with cursor := s.cursor.next }

/-- The end of the stream closes all. -/
def finish (s : Lexing) : Option Lexing := do
  let s ← (s.unwindTo (-1)).dropCandidate
  return { s.emit .streamEnd with finished := true }

/-- A token that stands between documents or before them. -/
def betweenDocuments (read : Cursor → Option (Token × Cursor)) (s : Lexing) : Option Lexing := do
  let s ← (s.unwindTo (-1)).dropCandidate
  let (token, cursor) ← read s.cursor
  return { s.emit token with cursor, keyAllowed := false }

/-- Nothing but a comment may follow the end of a document on its line. -/
def documentEnd (c : Cursor) : Option (Token × Cursor) :=
  let after := (c.skip 3).skipSpaces
  if isLineEnd after.char ∨ after.char = '#' then some (.documentEnd, c.skip 3) else none

def directive (s : Lexing) : Option Lexing := do
  let s ← s.betweenDocuments (directive? s.version)
  match s.tokens with
  | .versionDirective _ minor :: _ => return { s with version := .ofMinor minor }
  | _ => return s

def openBracket (kind : Bracket) (token : Token) (s : Lexing) : Option Lexing := do
  let s ← s.saveCandidate
  return { s.single token with keyAllowed := true, brackets := (kind, none) :: s.brackets }

def closeBracket (token : Token) (s : Lexing) : Option Lexing := do
  let s ← s.dropCandidate
  return { s.single token with keyAllowed := false, brackets := s.brackets.tail }

def comma (s : Lexing) : Option Lexing := do
  let s ← s.dropCandidate
  return { s.single .comma with keyAllowed := true }

/-- A block collection at the cursor, where a key may begin. -/
def enterHere (start : Token) (s : Lexing) : Option Lexing :=
  if s.inFlow then some s
  else if s.keyAllowed then some (s.enter s.cursor.column s.tokens.length start)
  else none

/-- The dash of an item. -/
def item (s : Lexing) : Option Lexing := do
  let s ← s.enterHere .blockSequenceStart
  let s ← s.dropCandidate
  return { s.single .item with keyAllowed := true }

/-- The question mark of a key that need not be on one line. -/
def longKey (s : Lexing) : Option Lexing := do
  let s ← s.enterHere .blockMappingStart
  let s ← s.dropCandidate
  return { s.single .key with keyAllowed := !s.inFlow }

/-- The colon of a value. If there is a candidate it becomes the key. -/
def value (s : Lexing) : Option Lexing :=
  match s.candidate with
  | some k =>
    let s := (s.setCandidate none).insert k.number .key
    let s := if s.inFlow then s else s.enter k.column k.number .blockMappingStart
    some { s.single .value with keyAllowed := false }
  | none => do
    let s ← s.enterHere .blockMappingStart
    return { s.single .value with keyAllowed := !s.inFlow }

/-- A node, or a part of one, that may be a key. -/
def node (read : Cursor → Option (Token × Cursor)) (s : Lexing) : Option Lexing := do
  let s ← s.saveCandidate
  let (token, cursor) ← read s.cursor
  return { s.emit token with cursor, keyAllowed := false }

def quoted (quote : Char) (s : Lexing) : Option Lexing :=
  s.node fun c =>
    (quotedScalar quote c).map fun (text, c) => (.scalar false (String.ofList text), c)

/-- A block of lines, after which a key may begin. -/
def block (folded : Bool) (s : Lexing) : Option Lexing := do
  let s ← s.dropCandidate
  let (text, cursor) ← blockScalar folded s.indent s.cursor
  return { s.emit (.scalar false (String.ofList text)) with cursor, keyAllowed := true }

/-- A plain scalar; a key may begin after it if it ends with its line. -/
def plain (s : Lexing) : Option Lexing := do
  let s ← s.saveCandidate
  let ((text, endsLine), cursor) ← plainScalar s.version s.inFlow (s.indent + 1) s.cursor
  return { s.emit (.scalar true (String.ofList text)) with cursor, keyAllowed := endsLine }

/-- A colon at the cursor stands before a value. Within braces it needs no gap after it, unless it
follows another colon; `pending` tells that the tokens before are still undecided. -/
def colonIsValue (pending : Bool) (s : Lexing) : Bool :=
  let gap := isGap (s.cursor.peek 1)
  match s.brackets with
  | [] => gap
  | (kind, _) :: _ =>
    if s.version = .v11 then true
    else if kind = .bracket ∨ (pending ∧ s.tokens.head? = some .value) then gap
    else true

/-- Characters that begin something else than a plain scalar. -/
def indicators : List Char :=
  ['\x00', ' ', '\t', '\r', '\n', '\x85', '\u2028', '\u2029', '-', '?', ':', ',', '[', ']', '{',
   '}', '#', '&', '*', '!', '|', '>', '\'', '"', '%', '@', '\x60']

/-- A plain scalar begins at the cursor. -/
def startsPlain (s : Lexing) : Bool :=
  let d := s.cursor.char
  let following := s.cursor.peek 1
  !indicators.contains d ||
    (s.version ≠ .v11 && d = ':' && s.inFlow && !isTabOrSpace following) ||
    (!isGap following && (d = '-' || (!s.inFlow && (d = '?' || d = ':'))))

/-- Reads the token at the cursor. -/
def tokenHere (pending : Bool) (s : Lexing) : Option Lexing :=
  let c := s.cursor
  let d := c.char
  let gapFollows := isGap (c.peek 1)
  if d = endMark then s.finish
  else if d = '%' ∧ c.column = 0 then s.directive
  else if c.column = 0 ∧ c.looksAtMark "---" then
    s.betweenDocuments fun c => some (.documentStart, c.skip 3)
  else if c.column = 0 ∧ c.looksAtMark "..." then s.betweenDocuments documentEnd
  else if d = '[' then s.openBracket .bracket .openBracket
  else if d = '{' then s.openBracket .brace .openBrace
  else if d = ']' then s.closeBracket .closeBracket
  else if d = '}' then s.closeBracket .closeBrace
  else if d = ',' then s.comma
  else if d = '-' ∧ gapFollows then s.item
  else if d = '?' ∧ (s.inFlow ∨ gapFollows) then s.longKey
  else if d = ':' ∧ s.colonIsValue pending then s.value
  else if d = '*' then s.node fun c => (anchorName? c).map fun (name, c) => (.alias name, c)
  else if d = '&' then s.node fun c => (anchorName? c).map fun (name, c) => (.anchor name, c)
  else if d = '!' then s.node fun c => (tag? s.version c).map fun (tag, c) => (.tag tag, c)
  else if d = '|' ∧ !s.inFlow then s.block false
  else if d = '>' ∧ !s.inFlow then s.block true
  else if d = '\'' ∨ d = '"' then s.quoted d
  else if s.startsPlain then s.plain
  else none

/-- Moves to the next token and reads it. -/
def step (s : Lexing) : Option Lexing := do
  let s ← s.dropStale
  let pending := s.hasCandidate
  let s ← s.skipToToken
  let s ← s.dropStale
  let s := if s.inFlow then s else s.unwindTo s.cursor.column
  s.tokenHere pending

/-- All tokens in their order. -/
def run (s : Lexing) : List Token :=
  match s.step with
  | none => s.tokens.reverse
  | some s' =>
    if s'.finished then s'.tokens.reverse
    else if s'.cursor.left < s.cursor.left then s'.run
    else s'.tokens.reverse
termination_by s.cursor.left

end Lexing

/-- Tabs, line breaks and all other characters that are not control characters. -/
def isAllowedChar (c : Char) : Bool :=
  c = '\t' || c = '\n' || c = '\r' || (' ' ≤ c && c ≤ '~') || c = '\x85' ||
    ('\xa0' ≤ c && c ≠ '\ufffe' && c ≠ '\uffff')

/-- The tokens of a text; there are none if it has a character that is not allowed. -/
def Token.ofText (version : Version) (text : String) : List Token :=
  if text.toList.all isAllowedChar then (Lexing.start version text).run else []

end TypedManifests.Yaml
