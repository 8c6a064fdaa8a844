/-
Module: TypedManifests.Number.Reading
Purpose: Numbers read from text. A decimal number has an optional sign, digits with at most one
  point, and an optional exponent; digits of every script count, single underscores may stand
  between digits, white space around the number is dropped, and infinity and not-a-number are
  written as words.
Main exports: ofDigits?, ofAsciiDecimal?, ofText?
-/
import TypedManifests.Number.Binary64
import TypedManifests.Text.CharacterClass

namespace TypedManifests.Number

open TypedManifests.Text

/-- The value of a digit in the given base, up to 16. -/
def digitValue? (base : Nat) (c : Char) : Option Nat :=
  let value :=
    if isAsciiDigit c then some (c.toNat - '0'.toNat)
    else if 'a' ≤ c && c ≤ 'f' then some (c.toNat - 'a'.toNat + 10)
    else if 'A' ≤ c && c ≤ 'F' then some (c.toNat - 'A'.toNat + 10)
    else none
  value.filter (· < base)

/-- The natural number that a non-empty row of digits denotes. -/
def ofDigits? (base : Nat) : List Char → Option Nat
  | [] => none
  | digits => digits.foldlM (fun n c => (digitValue? base c).map (n * base + ·)) 0

/-- A leading sign: whether it is a minus, and what follows. -/
def splitSign : List Char → Bool × List Char
  | '-' :: rest => (true, rest)
  | '+' :: rest => (false, rest)
  | text => (false, text)

/-- The number that an unsigned decimal with the given sign denotes: digits, a point among, before
or after them, and an exponent. -/
def ofUnsignedDecimal? (negative : Bool) (text : List Char) : Option Binary64 := do
  let whole := text.takeWhile isAsciiDigit
  let rest := text.dropWhile isAsciiDigit
  let (fraction, rest) :=
    match rest with
    | '.' :: more => (more.takeWhile isAsciiDigit, more.dropWhile isAsciiDigit)
    | _ => ([], rest)
  let digits ← ofDigits? 10 (whole ++ fraction)
  let exponent : Int ←
    match rest with
    | [] => some 0
    | e :: more =>
      if e = 'e' ∨ e = 'E' then
        let (minus, places) := splitSign more
        (ofDigits? 10 places).map fun n => if minus then -(n : Int) else n
      else none
  return .ofDecimal negative digits (exponent - fraction.length)

def lower (c : Char) : Char := c.toLower

/-- The number that a decimal in ASCII denotes, also one of the words for infinity and for
not-a-number in any case. -/
def ofAsciiDecimal? (text : List Char) : Option Binary64 :=
  let (negative, rest) := splitSign text
  let word := String.ofList (rest.map lower)
  if word = "inf" ∨ word = "infinity" then some (.infinite negative)
  else if word = "nan" then some .nan
  else ofUnsignedDecimal? negative rest

/-- Drops single underscores between digits; there is no result for one that stands elsewhere. -/
def dropUnderscores? (previousIsDigit : Bool) : List Char → Option (List Char)
  | [] => some []
  | '_' :: c :: rest =>
    if previousIsDigit && isAsciiDigit c then (dropUnderscores? true rest).map (c :: ·) else none
  | '_' :: [] => none
  | c :: rest => (dropUnderscores? (isAsciiDigit c) rest).map (c :: ·)

/-- White space that may surround a number. -/
def isPadding (c : Char) : Bool :=
  if c.toNat < 0x80 then c = ' ' || (9 ≤ c.toNat && c.toNat ≤ 13) else isBlank c

/-- A digit of any script as an ASCII digit. -/
def toAsciiDigit (c : Char) : Char :=
  match decimalDigit? c with
  | some d => Nat.digitChar d
  | none => c

/-- The number that a text denotes. -/
def ofText? (text : String) : Option Binary64 :=
  let trimmed := (text.toList.dropWhile isPadding).reverse.dropWhile isPadding |>.reverse
  (dropUnderscores? false (trimmed.map toAsciiDigit)).bind ofAsciiDecimal?

end TypedManifests.Number
