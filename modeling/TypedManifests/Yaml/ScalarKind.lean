/-
Module: TypedManifests.Yaml.ScalarKind
Purpose: The kinds of plain scalars, by the version of YAML that a document is written in.
Main exports: Version, ScalarKind, TimestampText, ScalarKind.ofPlain
-/
import TypedManifests.Number.Reading

/-!
What a plain scalar stands for, told from its text alone: null, a truth value, a number, a date, or
text. Documents of YAML 1.1 know more words for truth values and more ways to write numbers than
those of YAML 1.2. In documents of any other version plain scalars are text.
-/

namespace TypedManifests.Yaml

open TypedManifests.Text

inductive Version where
  | v11
  | v12
  /-- A version with the given second number, whose rules for plain scalars are not known. -/
  | other (minor : Nat)
deriving DecidableEq, Repr

namespace Version

def ofMinor : Nat → Version
  | 1 => .v11
  | 2 => .v12
  | minor => .other minor

/-- The version that is taken for granted. -/
def default : Version := .v12

instance : Inhabited Version := ⟨default⟩

/-- An entry of a mapping may lack its key. -/
def allowsMissingKey : Version → Bool
  | .v11 => false
  | .v12 => true
  | .other minor => 1 < minor

end Version

inductive ScalarKind where
  | null | bool | int | float | timestamp
  /-- The word that merges mappings. -/
  | merge
  /-- The word for the default value. -/
  | defaultValue
  | text
deriving DecidableEq, Repr

namespace ScalarKind

def dropSign : List Char → List Char
  | '-' :: rest => rest
  | '+' :: rest => rest
  | unsigned => unsigned

/-- Not empty, and of characters with the property. -/
def someOf (p : Char → Bool) (text : List Char) : Bool := !text.isEmpty && text.all p

def isDigitOr_ (c : Char) : Bool := isAsciiDigit c || c = '_'
def isOctalOr_ (c : Char) : Bool := ('0' ≤ c && c ≤ '7') || c = '_'
def isBinaryOr_ (c : Char) : Bool := c = '0' || c = '1' || c = '_'
def isHexOr_ (c : Char) : Bool :=
  isAsciiDigit c || ('a' ≤ c && c ≤ 'f') || ('A' ≤ c && c ≤ 'F') || c = '_'

/-- Groups of one or two digits, the first of them at most 5 if there are two, each after a colon;
`tail` tells what may follow them. -/
def sixties (tail : List Char → Bool) : List Char → Bool
  | ':' :: a :: b :: rest =>
    (('0' ≤ a && a ≤ '5') && isAsciiDigit b && (sixties tail rest || tail rest)) ||
      (isAsciiDigit a && (sixties tail (b :: rest) || tail (b :: rest)))
  | [':', a] => isAsciiDigit a && tail []
  | _ => false
termination_by cs => cs.length

def isInt12 (text : List Char) : Bool :=
  match dropSign text with
  | '0' :: 'b' :: rest => someOf isBinaryOr_ rest
  | '0' :: 'o' :: rest => someOf isOctalOr_ rest
  | '0' :: 'x' :: rest => someOf isHexOr_ rest
  | digits => someOf isDigitOr_ digits

def isInt11 (text : List Char) : Bool :=
  match dropSign text with
  | '0' :: 'b' :: rest => someOf isBinaryOr_ rest
  | '0' :: 'x' :: rest => someOf isHexOr_ rest
  | digits =>
    someOf isOctalOr_ digits ||
      (match digits with
        | c :: rest =>
          '1' ≤ c && c ≤ '9' &&
            (rest.all isDigitOr_ ||
              sixties List.isEmpty (rest.dropWhile isDigitOr_))
        | [] => false)

/-- The mark of an exponent, an optional sign and digits. -/
def isExponent (signNeeded : Bool) : List Char → Bool
  | e :: rest =>
    (e = 'e' || e = 'E') &&
      (if signNeeded then
        (match rest with
          | s :: digits => (s = '+' || s = '-') && someOf isAsciiDigit digits
          | [] => false)
      else someOf isAsciiDigit (dropSign rest))
  | [] => false

/-- Digits before a point or an exponent. -/
def isPointed (text : List Char) : Bool :=
  match text with
  | c :: rest =>
    isAsciiDigit c &&
      (match rest.dropWhile isDigitOr_ with
        | '.' :: more =>
          let after := more.dropWhile isDigitOr_
          after.isEmpty || isExponent false after
        | more => isExponent false more)
  | [] => false

/-- A point before the digits. -/
def isFraction : List Char → Bool
  | '.' :: rest =>
    !(rest.takeWhile isDigitOr_).isEmpty &&
      (let after := rest.dropWhile isDigitOr_; after.isEmpty || isExponent true after)
  | _ => false

def isInfinity (text : List Char) : Bool :=
  [".inf", ".Inf", ".INF"].contains (String.ofList (dropSign text))

def isNan (text : List Char) : Bool :=
  [".nan", ".NaN", ".NAN"].contains (String.ofList text)

/-- A point after groups of sixties. -/
def isSixtiesFraction (text : List Char) : Bool :=
  match dropSign text with
  | c :: rest =>
    isAsciiDigit c &&
      sixties (fun tail => match tail with
        | '.' :: digits => digits.all isDigitOr_
        | _ => false) (rest.dropWhile isDigitOr_)
  | [] => false

def isFloat (version : Version) (text : List Char) : Bool :=
  isPointed (dropSign text) || isInfinity text || isNan text ||
    (if version = .v11 then isFraction text || isSixtiesFraction text
      else isFraction (dropSign text))

def boolWords : Version → List String
  | .v11 =>
    ["y", "Y", "yes", "Yes", "YES", "n", "N", "no", "No", "NO",
     "true", "True", "TRUE", "false", "False", "FALSE",
     "on", "On", "ON", "off", "Off", "OFF"]
  | _ => ["true", "True", "TRUE", "false", "False", "FALSE"]

def nullWords : List String := ["", "~", "null", "Null", "NULL"]

end ScalarKind

/-- The fields of a date with an optional time, as they are written. -/
structure TimestampText where
  year : List Char
  month : List Char
  day : List Char
  time : Option (List Char × List Char × List Char)
  fraction : List Char
  /-- The sign, hours and minutes of the distance from universal time; none in `some none`, where
  universal time itself is meant. -/
  zone : Option (Option (Bool × List Char × List Char))

namespace TimestampText

/-- One or two digits off the front. -/
def shortNumber? : List Char → Option (List Char × List Char)
  | a :: b :: rest =>
    if isAsciiDigit a then
      if isAsciiDigit b then some ([a, b], rest) else some ([a], b :: rest)
    else none
  | [a] => if isAsciiDigit a then some ([a], []) else none
  | [] => none

/-- Two digits off the front. -/
def pair? : List Char → Option (List Char × List Char)
  | a :: b :: rest => if isAsciiDigit a && isAsciiDigit b then some ([a, b], rest) else none
  | _ => none

def expect? (c : Char) : List Char → Option (List Char)
  | d :: rest => if d = c then some rest else none
  | [] => none

def isTabOrSpace (c : Char) : Bool := c = ' ' || c = '\t'

/-- The zone, which ends the text. -/
def zone? (text : List Char) : Option (Option (Option (Bool × List Char × List Char))) :=
  if text.isEmpty then some none
  else
    match text.dropWhile isTabOrSpace with
    | ['Z'] => some (some none)
    | sign :: rest =>
      if sign = '+' ∨ sign = '-' then do
        let (hours, rest) ← shortNumber? rest
        match rest with
        | [] => some (some (some (sign = '-', hours, [])))
        | _ =>
          let (minutes, rest) ← (expect? ':' rest).bind pair?
          if rest.isEmpty then some (some (some (sign = '-', hours, minutes))) else none
      else none
    | [] => none

/-- The fields of a text; month and day alone may have a single digit. -/
def ofText? (text : List Char) : Option TimestampText := do
  let (y₁, rest) ← pair? text
  let (y₂, rest) ← pair? rest
  let (month, rest) ← (expect? '-' rest).bind shortNumber?
  let (day, rest) ← (expect? '-' rest).bind shortNumber?
  match rest with
  | [] => return ⟨y₁ ++ y₂, month, day, none, [], none⟩
  | c :: more =>
    let clock ←
      if c = 'T' ∨ c = 't' then some more
      else if isTabOrSpace c then some (more.dropWhile isTabOrSpace)
      else none
    let (hour, rest) ← shortNumber? clock
    let (minute, rest) ← (expect? ':' rest).bind pair?
    let (second, rest) ← (expect? ':' rest).bind pair?
    let (fraction, rest) :=
      match rest with
      | '.' :: more => (more.takeWhile isAsciiDigit, more.dropWhile isAsciiDigit)
      | _ => ([], rest)
    let zone ← zone? rest
    return ⟨y₁ ++ y₂, month, day, some (hour, minute, second), fraction, zone⟩

/-- A date alone needs two digits for month and day to be told from other text. -/
def isPlain (text : List Char) : Bool :=
  match ofText? text with
  | some t => t.time.isSome || (t.month.length = 2 && t.day.length = 2)
  | none => false

end TimestampText

/-- The kind of a plain scalar in a version whose rules are known. -/
def ScalarKind.ofKnown (version : Version) (text : String) : ScalarKind :=
  let cs := text.toList
  let numeric := match cs.head? with
    | some c => isAsciiDigit c || c = '-' || c = '+'
    | none => false
  if nullWords.contains text then .null
  else if (boolWords version).contains text then .bool
  else if text = "<<" then .merge
  else if text = "=" then .defaultValue
  else if (numeric || cs.head? = some '.') && isFloat version cs then .float
  else if numeric && (if version = .v11 then isInt11 cs else isInt12 cs) then .int
  else if TimestampText.isPlain cs then .timestamp
  else .text

/-- The kind of a plain scalar. -/
def ScalarKind.ofPlain (version : Version) (text : String) : ScalarKind :=
  match version with
  | .other _ => .text
  | known => ofKnown known text

end TypedManifests.Yaml
