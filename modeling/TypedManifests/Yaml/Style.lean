/-
Module: TypedManifests.Yaml.Style
Purpose: How a text is written as a scalar: plain where it reads back as the same text, in double
  quotes where it holds an apostrophe, a line break or a character that cannot be shown, in single
  quotes otherwise.
Main exports: Style, Style.allowsPlain, Style.ofText
-/
import TypedManifests.Yaml.ScalarKind

namespace TypedManifests.Yaml

inductive Style where
  | plain
  | singleQuoted
  | doubleQuoted
deriving DecidableEq, Repr

namespace Style

def isBreak (c : Char) : Bool :=
  c = '\n' || c = '\x85' || c = '\u2028' || c = '\u2029'

/-- A blank, tab, line break or the null character. -/
def isGap (c : Char) : Bool :=
  c = ' ' || c = '\t' || c = '\r' || c = '\x00' || isBreak c

/-- A character that is shown as it is, or a line break. -/
def isShown (c : Char) : Bool :=
  c = '\n' || (' ' ≤ c && c ≤ '~') || c = '\x85' ||
    ('\xa0' ≤ c && c ≠ '\ufeff' && c ≠ '\ufffe' && c ≠ '\uffff')

/-- Two neighbours have the properties `p` and `q`. -/
def adjacent (p q : Char → Bool) : List Char → Bool
  | a :: b :: rest => (p a && q b) || adjacent p q (b :: rest)
  | _ => false

/-- The characters that begin something else than a plain scalar. -/
def indicators : List Char :=
  ['#', ',', '[', ']', '{', '}', '&', '*', '!', '|', '>', '\'', '"', '%', '@', '\x60']

/-- The text, or the part after its first character, begins with a character that is followed by a
gap or by nothing. -/
def atGap : List Char → Bool
  | [] => true
  | c :: _ => isGap c

/-- The first character makes the text something else than a plain scalar. -/
def badStart (text : List Char) : Bool :=
  match text with
  | [] => false
  | c :: rest =>
    indicators.contains c || ((c = '?' || c = ':' || c = '-') && atGap rest) ||
      (['-', '-', '-'].isPrefixOf text || ['.', '.', '.'].isPrefixOf text)

/-- A colon before a gap or the end, or a hash sign after a gap, ends a plain scalar. -/
def endsPlain : List Char → Bool
  | a :: b :: rest =>
    (b = ':' && atGap rest) || (b = '#' && isGap a) || endsPlain (b :: rest)
  | _ => false

def isSpace (c : Char) : Bool := c = ' '

/-- Blanks stand at the begin or end, or beside a line break. -/
def hasOuterGap (text : List Char) : Bool :=
  text.head?.any (fun c => isSpace c || isBreak c) ||
    text.getLast?.any (fun c => isSpace c || isBreak c)

/-- Quotes of any kind keep the text, single ones too. -/
def allowsSingle (text : List Char) : Bool :=
  text.all isShown && !adjacent isBreak isSpace text && !adjacent isSpace isBreak text

def isMultiline (text : List Char) : Bool := text.any isBreak

/-- The text keeps its meaning without quotes, its kind apart. -/
def allowsPlain (text : List Char) : Bool :=
  allowsSingle text && !hasOuterGap text && !isMultiline text && !badStart text && !endsPlain text

/-- The style of a text; a key on one line holds no line break. -/
def ofText (simpleKey : Bool) (text : String) : Style :=
  let cs := text.toList
  if !text.isEmpty && allowsPlain cs && ScalarKind.ofPlain .v12 text = .text then .plain
  else if cs.contains '\'' || cs.contains '\n' then .doubleQuoted
  else if allowsSingle cs && !(simpleKey && isMultiline cs) then .singleQuoted
  else .doubleQuoted

end Style

end TypedManifests.Yaml
