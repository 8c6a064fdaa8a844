/-
Module: TypedManifests.Text.QuotedLiteral
Purpose: Literals in quotes, as messages show them: the text stands between apostrophes, or between
  double quotes when it holds an apostrophe and no double quote, and every character that cannot be
  shown is escaped by its code point.
Main exports: hexadecimal, quotedLiteral
-/
import TypedManifests.Text.CharacterClass

namespace TypedManifests.Text

/-- The `width` last hexadecimal digits of `n`, in lower case. -/
def hexadecimal (width : Nat) (n : Nat) : List Char :=
  (List.range width).reverse.map fun i => Nat.digitChar (n / Nat.pow 16 i % 16)

namespace QuotedLiteral

/-- The quote that needs the fewest escapes, an apostrophe in doubt. -/
def quoteFor (text : List Char) : Char :=
  if '\'' ∈ text ∧ '"' ∉ text then '"' else '\''

/-- The written form of one character between two `quote`s. -/
def escape (quote c : Char) : List Char :=
  if c = quote ∨ c = '\\' then ['\\', c]
  else if c = '\t' then ['\\', 't']
  else if c = '\n' then ['\\', 'n']
  else if c = '\r' then ['\\', 'r']
  else if isPrintable c then [c]
  else if c.toNat < 0x100 then '\\' :: 'x' :: hexadecimal 2 c.toNat
  else if c.toNat < 0x10000 then '\\' :: 'u' :: hexadecimal 4 c.toNat
  else '\\' :: 'U' :: hexadecimal 8 c.toNat

end QuotedLiteral

/-- `text` as a literal in quotes. -/
def quotedLiteral (text : String) : String :=
  let quote := QuotedLiteral.quoteFor text.toList
  String.ofList (quote :: text.toList.flatMap (QuotedLiteral.escape quote) ++ [quote])

end TypedManifests.Text
