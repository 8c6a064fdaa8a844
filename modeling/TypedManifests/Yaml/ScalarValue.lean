/-
Module: TypedManifests.Yaml.ScalarValue
Purpose: From the text of a scalar and its kind to its value.
Main exports: ValueFault, ReadError, ofInteger, ofNumber, ofTruthWord, ofTimestamp, ofText
-/
import TypedManifests.Text.QuotedLiteral
import TypedManifests.Text.Split
import TypedManifests.Value.Basic
import TypedManifests.Yaml.ScalarKind

/-!
The values of scalars whose kind is known. A scalar may be said to be of a kind that its text does
not fit, and a plain one may fit the form of a number or of a date and still denote none.
-/

namespace TypedManifests.Yaml

open TypedManifests.Text

/-- Why a document has no value, although it is well formed. -/
inductive ValueFault where
  | notInteger (base : Nat) (digits : String)
  | notNumber (text : String)
  /-- Nothing is left of a number. -/
  | noDigits
  | notTruthValue (word : String)
  | yearOutOfRange (year : Nat)
  | monthOutOfRange
  | dayOutOfRange
  | hourOutOfRange
  | minuteOutOfRange
  | secondOutOfRange
  /-- The zone is a day or more away from universal time. -/
  | zoneOutOfRange (seconds : Int)
  /-- The next second is beyond the last year. -/
  | dateOutOfRange
  /-- The items of a key that is a list include a list or a mapping. -/
  | nestedKey (mapping : Bool)
  /-- There are values for neither bytes nor sets, nor for a list or mapping that it is itself a
  part of. The reading ends where a document holds one of these. -/
  | bytes
  | set
  | insideItself
deriving DecidableEq, Repr

namespace ValueFault

/-- The document is sound, and holds what there are no values for here. -/
def isForeign : ValueFault → Bool
  | .bytes | .set | .insideItself => true
  | _ => false

/-- A distance in time, in whole days and the seconds of the last one. -/
def distanceLiteral (seconds : Int) : String :=
  let days := seconds.fdiv 86400
  let rest := seconds.fmod 86400
  "datetime.timedelta(" ++ s!"days={days}" ++ (if rest = 0 then "" else s!", seconds={rest}") ++ ")"

def message : ValueFault → String
  | .notInteger base digits =>
    s!"invalid literal for int() with base {base}: " ++ quotedLiteral digits
  | .notNumber text => "could not convert string to float: " ++ quotedLiteral text
  | .noDigits => "string index out of range"
  | .notTruthValue word => quotedLiteral word
  | .yearOutOfRange year => s!"year {year} is out of range"
  | .monthOutOfRange => "month must be in 1..12"
  | .dayOutOfRange => "day is out of range for month"
  | .hourOutOfRange => "hour must be in 0..23"
  | .minuteOutOfRange => "minute must be in 0..59"
  | .secondOutOfRange => "second must be in 0..59"
  | .zoneOutOfRange seconds =>
    "offset must be a timedelta strictly between -timedelta(hours=24) and " ++
      "timedelta(hours=24), not " ++
      distanceLiteral seconds ++ "."
  | .dateOutOfRange => "date value out of range"
  | .nestedKey mapping => "unhashable type: " ++ (if mapping then "'dict'" else "'list'")
  | .bytes => "bytes are not read"
  | .set => "sets are not read"
  | .insideItself => "maximum recursion depth exceeded"

end ValueFault

/-- Why a text cannot be read. -/
inductive ReadError where
  /-- The text is not well formed; where and why is not told. -/
  | malformed
  | badValue (fault : ValueFault)
deriving DecidableEq, Repr

/-- Nothing is wrong with the document but that there is no value for it here. -/
def ReadError.isForeign : ReadError → Bool
  | .malformed => false
  | .badValue fault => fault.isForeign

namespace ScalarValue

/-- The text without underscores. -/
def dropUnderscores (text : String) : List Char := text.toList.filter (· ≠ '_')

/-! ### Numbers -/

/-- The integer that digits in the given base denote, with an optional sign and white space around.
-/
def integer (base : Nat) (text : List Char) : Except ValueFault Int :=
  let trimmed := (text.dropWhile Number.isPadding).reverse.dropWhile Number.isPadding |>.reverse
  let (negative, digits) := Number.splitSign (trimmed.map Number.toAsciiDigit)
  match Number.ofDigits? base digits with
  | some n => .ok (if negative then -(n : Int) else n)
  | none => .error (.notInteger base (String.ofList text))

/-- The value of numbers between colons, each counting sixty times the one after it. -/
def sixties (parts : List Int) : Int := parts.foldl (fun n part => n * 60 + part) 0

/-- An integer without its sign. -/
def unsignedInteger (version : Version) (text : List Char) : Except ValueFault Int :=
  match text with
  | '0' :: 'b' :: digits => integer 2 digits
  | '0' :: 'x' :: digits => integer 16 digits
  | '0' :: 'o' :: digits => integer 8 digits
  | ['0'] => .ok 0
  | _ =>
    if version ≠ .v11 then integer 10 text
    else if text.isEmpty then .error .noDigits
    else if text.head? = some '0' then integer 8 text
    else if ':' ∈ text then ((splitAll ':' text).mapM (integer 10)).map sixties
    else integer 10 text

def ofInteger (version : Version) (text : String) : Except ValueFault Value := do
  let text := dropUnderscores text
  if text.isEmpty then .error .noDigits
  let (negative, rest) := Number.splitSign text
  let n ← unsignedInteger version rest
  return .int (if negative then -n else n)

/-- The number that a text denotes. -/
def number (text : List Char) : Except ValueFault Binary64 :=
  match Number.ofText? (String.ofList text) with
  | some x => .ok x
  | none => .error (.notNumber (String.ofList text))

def negate : Binary64 → Binary64
  | .nan => .nan
  | .infinite negative => .infinite !negative
  | .finite negative mantissa exponent => .finite (!negative) mantissa exponent

/-- A number without its sign. -/
def unsignedNumber (version : Version) (text : List Char) : Except ValueFault Binary64 :=
  if text = ".inf".toList then .ok (.infinite false)
  else if text = ".nan".toList then .ok .nan
  else if version ≠ .v12 ∧ ':' ∈ text then do
    let parts ← (splitAll ':' text).mapM number
    -- the last part counts once, the one before it sixty times, and so on
    let (sum, _) := parts.foldr
      (fun part (sum, base) => (Binary64.add sum (Binary64.times part base), base * 60))
      (Binary64.zero false, 1)
    return sum
  else number text

def ofNumber (version : Version) (text : String) : Except ValueFault Value := do
  let text := (dropUnderscores text).map Number.lower
  if text.isEmpty then .error .noDigits
  let (negative, rest) := Number.splitSign text
  let x ← unsignedNumber version rest
  return .float (if negative then negate x else x)

/-! ### Words -/

def trueWords : List String := ["yes", "y", "true", "on"]
def falseWords : List String := ["no", "n", "false", "off"]

def ofTruthWord (text : String) : Except ValueFault Value :=
  let word := String.ofList (text.toList.map Number.lower)
  if trueWords.contains word then .ok (.bool true)
  else if falseWords.contains word then .ok (.bool false)
  else .error (.notTruthValue word)

/-! ### Dates and times -/

def digits (text : List Char) : Nat := (Number.ofDigits? 10 text).getD 0

def lastYear : Nat := 9999

/-- A date of the calendar. -/
def date (year month day : Nat) : Except ValueFault Date :=
  let d : Date := ⟨year, month, day⟩
  if year = 0 then .error (.yearOutOfRange year)
  else if month = 0 ∨ 12 < month then .error .monthOutOfRange
  else if d.valid then .ok d
  else .error .dayOutOfRange

/-- The fraction of a second in millionths, rounded at the seventh digit. -/
def millionths (fraction : List Char) : Nat :=
  let kept := fraction.take 6
  let rounded := match fraction.drop 6 with
    | d :: _ => if '4' < d then 1 else 0
    | [] => 0
  digits (kept ++ List.replicate (6 - kept.length) '0') + rounded

/-- The distance from universal time in seconds. -/
def zone : Option (Option (Bool × List Char × List Char)) → Except ValueFault (Option Int)
  | none => .ok none
  | some none => .ok (some 0)
  | some (some (negative, hours, minutes)) =>
    let distance : Int := digits hours * 3600 + digits minutes * 60
    let seconds := if negative then -distance else distance
    if distance < 86400 then .ok (some seconds) else .error (.zoneOutOfRange seconds)

def ofTimestamp (t : TimestampText) : Except ValueFault Value :=
  match t.time with
  | none => (date (digits t.year) (digits t.month) (digits t.day)).map .date
  | some (hours, minutes, seconds) => do
    let offset ← zone t.zone
    let d ← date (digits t.year) (digits t.month) (digits t.day)
    let (hour, minute, second) := (digits hours, digits minutes, digits seconds)
    if 23 < hour then .error .hourOutOfRange
    if 59 < minute then .error .minuteOutOfRange
    if 59 < second then .error .secondOutOfRange
    let fraction := millionths t.fraction
    let whole : Timestamp := ⟨d, hour, minute, second, fraction % 1000000, offset⟩
    if fraction < 1000000 then return .time whole
    let next := whole.nextSecond
    if lastYear < next.date.year then .error .dateOutOfRange else return .time next

/-- The value of a scalar. There is none for the words that only have a meaning as keys. -/
def ofText (version : Version) (kind : ScalarKind) (text : String) : Except ReadError Value :=
  match kind with
  | .null => .ok .null
  | .bool => (ofTruthWord text).mapError .badValue
  | .int => (ofInteger version text).mapError .badValue
  | .float => (ofNumber version text).mapError .badValue
  | .timestamp =>
    match TimestampText.ofText? text.toList with
    | some t => (ofTimestamp t).mapError .badValue
    | none => .error .malformed
  | .merge | .defaultValue => .error .malformed
  | .text => .ok (.text text)

end ScalarValue

end TypedManifests.Yaml
