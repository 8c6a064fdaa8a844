/-
Module: TypedManifests.Text.CharacterClass
Purpose: Classes of characters and the upper-case map, for all of Unicode. ASCII is decided
  directly; the rest is looked up in the tables.
Main exports: isBlank, isLetter, isAlphanumeric, isWordChar, isPrintable, decimalDigit?, upperCase
-/
import TypedManifests.Text.CharacterTables

namespace TypedManifests.Text

/-- Some range of `table` holds the code point. -/
def inRanges (table : List (Nat × Nat)) (code : Nat) : Bool :=
  table.any fun range => range.1 ≤ code && code ≤ range.2

def isAsciiLetter (c : Char) : Bool :=
  ('a' ≤ c && c ≤ 'z') || ('A' ≤ c && c ≤ 'Z')

def isAsciiDigit (c : Char) : Bool :=
  '0' ≤ c && c ≤ '9'

/-- White space: blanks, tabs, line breaks and separators of every script. -/
def isBlank (c : Char) : Bool :=
  if c.toNat < 0x80 then
    (9 ≤ c.toNat && c.toNat ≤ 13) || (28 ≤ c.toNat && c.toNat ≤ 32)
  else inRanges blankRanges c.toNat

/-- A letter of any script. -/
def isLetter (c : Char) : Bool :=
  if c.toNat < 0x80 then isAsciiLetter c else inRanges letterRanges c.toNat

/-- A letter, or a character with a numeric value. -/
def isAlphanumeric (c : Char) : Bool :=
  if c.toNat < 0x80 then isAsciiLetter c || isAsciiDigit c
  else inRanges letterRanges c.toNat || inRanges numeralRanges c.toNat

/-- A character that words are made of. -/
def isWordChar (c : Char) : Bool :=
  c = '_' || isAlphanumeric c

/-- A character that a quoted literal shows as it is. -/
def isPrintable (c : Char) : Bool :=
  if c.toNat < 0x80 then 0x20 ≤ c.toNat && c.toNat ≤ 0x7e
  else !inRanges hiddenRanges c.toNat

/-- The value of a decimal digit of any script. -/
def decimalDigit? (c : Char) : Option Nat :=
  if c.toNat < 0x80 then
    if isAsciiDigit c then some (c.toNat - '0'.toNat) else none
  else (decimalZeros.find? fun first => first ≤ c.toNat && c.toNat ≤ first + 9).map (c.toNat - ·)

/-- The upper-case form of one character: one character, or several for ligatures and the like. -/
def upperCase (c : Char) : List Char :=
  if c.toNat < 0x80 then
    if 'a' ≤ c && c ≤ 'z' then [Char.ofNat (c.toNat - 32)] else [c]
  else
    match upperExpansions.find? fun entry => entry.1 = c.toNat with
    | some (_, codes) => codes.map Char.ofNat
    | none =>
      match upperRuns.find? fun (first, last, step, _) =>
          first ≤ c.toNat && c.toNat ≤ last && (c.toNat - first) % step = 0 with
      | some (first, _, _, upper) => [Char.ofNat (upper + (c.toNat - first))]
      | none => [c]

end TypedManifests.Text
