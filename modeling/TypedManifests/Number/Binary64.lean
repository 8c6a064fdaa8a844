/-
Module: TypedManifests.Number.Binary64
Purpose: Binary floating-point numbers of 64 bits, by their values: a sign, a mantissa below 2^53
  and a power of two from 2^-1074 to 2^971. Rounding goes to the nearest number, a tie to the even
  mantissa.
Main exports: Binary64, Binary64.ofRatio, Binary64.ofDecimal, Binary64.ofInt, Binary64.add,
  Binary64.times, Binary64.ceil?
-/

namespace TypedManifests

/-- A binary floating-point number. The finite number is `± mantissa * 2 ^ exponent`, with the least
exponent from `-1074` on that keeps the mantissa below `2 ^ 53`. -/
inductive Binary64 where
  | nan
  | infinite (negative : Bool)
  | finite (negative : Bool) (mantissa : Nat) (exponent : Int)
deriving DecidableEq, Repr, Inhabited

namespace Binary64

def precision : Nat := 53
def leastExponent : Int := -1074
def greatestExponent : Int := 971

/-- The zero with the given sign. -/
def zero (negative : Bool) : Binary64 := .finite negative 0 leastExponent

/-- The whole number nearest to `num / den`, of two the even one. -/
def roundHalfEven (num den : Nat) : Nat :=
  let q := num / den
  let r := num % den
  if 2 * r < den then q
  else if den < 2 * r then q + 1
  else if q % 2 = 0 then q else q + 1

/-- `num / den` in units of `2 ^ exponent`, as a fraction. -/
def inUnits (num den : Nat) (exponent : Int) : Nat × Nat :=
  if exponent < 0 then (num * Nat.pow 2 exponent.natAbs, den)
  else (num, den * Nat.pow 2 exponent.natAbs)

/-- The number nearest to `± num / den`. -/
def ofRatio (negative : Bool) (num den : Nat) : Binary64 :=
  if num = 0 then zero negative
  else
    let guess : Int := (Nat.log2 num : Int) - Nat.log2 den - precision
    let exponent := max leastExponent guess
    let (n, d) := inUnits num den exponent
    -- the guess is at most one below the exponent that fits the mantissa
    let exponent := if Nat.pow 2 precision * d ≤ n then exponent + 1 else exponent
    let (n, d) := inUnits num den exponent
    let mantissa := roundHalfEven n d
    let (mantissa, exponent) :=
      if mantissa = Nat.pow 2 precision then (Nat.pow 2 (precision - 1), exponent + 1)
      else (mantissa, exponent)
    if greatestExponent < exponent then .infinite negative else .finite negative mantissa exponent

/-- The number nearest to `± digits * 10 ^ power`. Far outside the range of numbers the power is not
computed. -/
def ofDecimal (negative : Bool) (digits : Nat) (power : Int) : Binary64 :=
  if digits = 0 then zero negative
  else
    let magnitude : Int := (Nat.toDigits 10 digits).length + power
    if 310 < magnitude then .infinite negative
    else if magnitude < -330 then zero negative
    else if power < 0 then ofRatio negative digits (Nat.pow 10 power.natAbs)
    else ofRatio negative (digits * Nat.pow 10 power.natAbs) 1

/-- The number nearest to an integer. -/
def ofInt (i : Int) : Binary64 := ofRatio (i < 0) i.natAbs 1

/-- The value of a finite number in units of `2 ^ exponent`; its own exponent is not below that. -/
def inUnitsOf (exponent : Int) : Bool → Nat → Int → Int := fun negative mantissa own =>
  (if negative then -1 else 1) * mantissa * Nat.pow 2 (own - exponent).natAbs

/-- The number nearest to `units * 2 ^ exponent`; `negative` is the sign of zero. -/
def ofUnits (negative : Bool) (units exponent : Int) : Binary64 :=
  if units = 0 then zero negative
  else if exponent < 0 then ofRatio (units < 0) units.natAbs (Nat.pow 2 exponent.natAbs)
  else ofRatio (units < 0) (units.natAbs * Nat.pow 2 exponent.natAbs) 1

/-- The number nearest to the sum. -/
def add : Binary64 → Binary64 → Binary64
  | .nan, _ | _, .nan => .nan
  | .infinite a, .infinite b => if a = b then .infinite a else .nan
  | .infinite a, _ | _, .infinite a => .infinite a
  | .finite a m e, .finite b n f =>
    let exponent := min e f
    ofUnits (a && b) (inUnitsOf exponent a m e + inUnitsOf exponent b n f) exponent

/-- The number nearest to the product with a natural number other than zero. -/
def times : Binary64 → Nat → Binary64
  | .nan, _ => .nan
  | .infinite a, _ => .infinite a
  | .finite a m e, n => ofUnits a ((if a then -1 else 1) * (m * n : Nat)) e

/-- No number, or one above zero. -/
def isPositiveOrNan : Binary64 → Bool
  | .nan => true
  | .infinite negative => !negative
  | .finite negative mantissa _ => !negative && mantissa ≠ 0

def isZero : Binary64 → Bool
  | .finite _ mantissa _ => mantissa = 0
  | _ => false

/-- The least integer that is not below a finite number; no other has one. -/
def ceil? : Binary64 → Option Int
  | .finite negative mantissa exponent =>
    let signed : Int := if negative then -mantissa else mantissa
    if 0 ≤ exponent then some (signed * Nat.pow 2 exponent.natAbs)
    else some (-((-signed) / Nat.pow 2 exponent.natAbs))
  | _ => none

/-- The integer that the number equals. -/
def toInt? : Binary64 → Option Int
  | .finite negative mantissa exponent =>
    let signed : Int := if negative then -mantissa else mantissa
    if 0 ≤ exponent then some (signed * Nat.pow 2 exponent.natAbs)
    else if signed % Nat.pow 2 exponent.natAbs = 0 then some (signed / Nat.pow 2 exponent.natAbs)
    else none
  | _ => none

end Binary64

end TypedManifests
