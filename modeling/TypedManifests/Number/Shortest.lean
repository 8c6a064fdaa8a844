/-
Module: TypedManifests.Number.Shortest
Purpose: The shortest decimal that reads back as a given binary number: of all decimals that round
  to it one with the fewest digits, and of those the one nearest to it.
Main exports: Decimal, Decimal.shortest, DecimalStyle, DecimalStyle.write
-/
import TypedManifests.Number.Binary64

namespace TypedManifests

/-- A positive decimal: `digits * 10 ^ power`. -/
structure Decimal where
  digits : Nat
  power : Int
deriving DecidableEq, Repr

namespace Decimal

/-- The reals that round to a positive number, all over one denominator: the number is
`value / unit`, and they reach from `low / unit` to `high / unit`, ends included if `closed`. -/
structure Neighbourhood where
  value : Nat
  low : Nat
  high : Nat
  unit : Nat
  closed : Bool

/-- The reals that round to `mantissa * 2 ^ exponent`. Below a power of two the numbers stand twice
as close. -/
def neighbourhood (mantissa : Nat) (exponent : Int) : Neighbourhood :=
  let up := if 0 ≤ exponent then Nat.pow 2 exponent.natAbs else 1
  let below :=
    if mantissa = Nat.pow 2 (Binary64.precision - 1) ∧ Binary64.leastExponent < exponent then 1
    else 2
  { value := 4 * mantissa * up
    low := (4 * mantissa - below) * up
    high := (4 * mantissa + 2) * up
    unit := 4 * (if 0 ≤ exponent then 1 else Nat.pow 2 exponent.natAbs)
    closed := mantissa % 2 = 0 }

/-- `num * scale ≤ limit` or `<`, as the neighbourhood includes its ends or not. -/
def within (closed : Bool) (a b : Nat) : Bool := if closed then a ≤ b else a < b

/-- The multiple of `10 ^ power` that lies in the neighbourhood, nearest to its value. -/
def onGrid? (n : Neighbourhood) (power : Int) : Option Decimal :=
  -- in units of 10 ^ power
  let scale := if power < 0 then Nat.pow 10 power.natAbs else 1
  let step := n.unit * (if power < 0 then 1 else Nat.pow 10 power.natAbs)
  let c := n.value * scale / step
  let lower := within n.closed (n.low * scale) (c * step)
  let upper := within n.closed ((c + 1) * step) (n.high * scale)
  let toLower := n.value * scale - c * step
  let toUpper := (c + 1) * step - n.value * scale
  match lower, upper with
  | false, false => none
  | true, false => some ⟨c, power⟩
  | false, true => some ⟨c + 1, power⟩
  | true, true =>
    if toLower < toUpper then some ⟨c, power⟩
    else if toUpper < toLower then some ⟨c + 1, power⟩
    else if c % 2 = 0 then some ⟨c, power⟩
    else some ⟨c + 1, power⟩

/-- The number of decimal digits before the point, or minus the number of zeros after it. -/
def magnitude (n : Neighbourhood) : Int :=
  if n.unit ≤ n.value then (Nat.toDigits 10 (n.value / n.unit)).length
  else
    let inverse := n.unit / n.value
    let k : Int := (Nat.toDigits 10 inverse).length
    -- 10 ^ (k - 1) ≤ unit / value, with equality only for a power of ten
    if n.unit % n.value = 0 ∧ inverse = Nat.pow 10 (k - 1).natAbs then 2 - k else 1 - k

/-- The coarsest of the grids with 1, 2, … 17 digits that has a point in the neighbourhood. -/
def shortest (mantissa : Nat) (exponent : Int) : Decimal :=
  let n := neighbourhood mantissa exponent
  let top := magnitude n
  ((List.range 18).findSome? fun (i : Nat) => onGrid? n (top - i)).getD ⟨0, 0⟩

end Decimal

/-- How a number is written: with an exponent below `10 ^ smallest` and from `10 ^ largest` on, and
by its place value between. -/
structure DecimalStyle where
  smallest : Int
  largest : Int
  nan : String
  infinity : String

namespace DecimalStyle

/-- The digits with the trailing zeros dropped, and the place of the point after the first digit. -/
def scientific (d : Decimal) : List Char × Int :=
  let digits := Nat.toDigits 10 d.digits
  let kept := (digits.reverse.dropWhile (· = '0')).reverse
  (kept, digits.length - 1 + d.power)

/-- An exponent with its sign and at least two digits. -/
def exponentText (e : Int) : List Char :=
  let digits := Nat.toDigits 10 e.natAbs
  (if e < 0 then '-' else '+') :: (if digits.length < 2 then '0' :: digits else digits)

/-- The digits with `place` of them before the point, and a zero where one side has none. -/
def positional (digits : List Char) (place : Int) : List Char :=
  if place ≤ 0 then '0' :: '.' :: (List.replicate place.natAbs '0' ++ digits)
  else
    let whole := digits.take place.natAbs
    let padded := whole ++ List.replicate (place.natAbs - whole.length) '0'
    let fraction := digits.drop place.natAbs
    padded ++ '.' :: (if fraction.isEmpty then ['0'] else fraction)

def magnitudeText (style : DecimalStyle) (d : Decimal) : List Char :=
  let (digits, exponent) := scientific d
  if exponent < style.smallest ∨ style.largest ≤ exponent then
    match digits with
    | [] => []
    | first :: rest =>
      first :: ((if rest.isEmpty then [] else '.' :: rest) ++ 'e' :: exponentText exponent)
  else positional digits (exponent + 1)

/-- The text of a number: the fewest digits that read back. -/
def write (style : DecimalStyle) : Binary64 → String
  | .nan => style.nan
  | .infinite negative => (if negative then "-" else "") ++ style.infinity
  | .finite negative mantissa exponent =>
    (if negative then "-" else "") ++
      if mantissa = 0 then "0.0"
      else String.ofList (style.magnitudeText (Decimal.shortest mantissa exponent))

end DecimalStyle

end TypedManifests
