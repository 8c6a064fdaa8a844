/-
Module: TypedManifests.Proofs.NumberRange
Purpose: Which integers are too large for a binary number. A natural number keeps its highest bits
  as the mantissa; it is too large if its power of two is, or if rounding carries into the next
  power at the very end of the range.
Main exports: Binary64.overflowLimit, Binary64.ofInt_eq_infinite_iff
-/
import Mathlib
import TypedManifests.Number.Binary64

namespace TypedManifests.Binary64

/-- Just below an even number, rounding goes up to it from the middle on. -/
theorem roundHalfEven_eq_succ_iff {num half q : Nat} (odd : q % 2 = 1)
    (below : num < (q + 1) * (2 * half)) :
    roundHalfEven num (2 * half) = q + 1 ↔ q * (2 * half) + half ≤ num := by
  have positive : 0 < 2 * half := Nat.pos_of_mul_pos_left (Nat.zero_lt_of_lt below)
  have atMost : num / (2 * half) ≤ q :=
    Nat.lt_succ_iff.1 ((Nat.div_lt_iff_lt_mul positive).2 below)
  have rest := Nat.mod_lt num positive
  have whole := Nat.div_add_mod' num (2 * half)
  rcases Nat.lt_or_eq_of_le atMost with less | equal
  · have next : (num / (2 * half) + 1) * (2 * half) ≤ q * (2 * half) :=
      Nat.mul_le_mul_right _ less
    rw [Nat.add_mul, Nat.one_mul] at next
    have short : roundHalfEven num (2 * half) ≤ num / (2 * half) + 1 := by
      simp only [roundHalfEven]
      grind
    constructor <;> omega
  · simp only [roundHalfEven, equal, odd]
    rw [equal] at whole
    generalize num % (2 * half) = r at *
    generalize q * (2 * half) = base at *
    constructor <;> grind

/-! ### The power of two of a natural number -/

/-- The power of two in whose units a natural number has a mantissa of full length. -/
def exponentOf (num : Nat) : Int := (Nat.log2 num : Int) - 52

/-- The mantissa of a natural number; it is one too long if rounding carries. -/
def mantissaOf (num : Nat) : Nat :=
  roundHalfEven (inUnits num 1 (exponentOf num)).1 (inUnits num 1 (exponentOf num)).2

theorem inUnits_of_neg {num : Nat} {exponent : Int} (below : exponent < 0) :
    inUnits num 1 exponent = (num * 2 ^ exponent.natAbs, 1) := if_pos below

theorem inUnits_of_nonneg {num : Nat} {exponent : Int} (least : 0 ≤ exponent) :
    inUnits num 1 exponent = (num, 2 ^ exponent.natAbs) := by
  rw [inUnits, if_neg (by omega), Nat.one_mul]
  rfl

/-- In units of the power of two below its own, a natural number has one bit too many. -/
theorem fills_units {num : Nat} (nonzero : num ≠ 0) :
    2 ^ 53 * (inUnits num 1 ((Nat.log2 num : Int) - 53)).2 ≤
      (inUnits num 1 ((Nat.log2 num : Int) - 53)).1 := by
  have least := Nat.log2_self_le nonzero
  generalize Nat.log2 num = log at *
  rcases Int.lt_or_le ((log : Int) - 53) 0 with below | above
  · have places : ((log : Int) - 53).natAbs = 53 - log := by omega
    rw [inUnits_of_neg below, places]
    calc 2 ^ 53 * 1 = 2 ^ log * 2 ^ (53 - log) := by
          rw [← Nat.pow_add, Nat.mul_one]
          congr 1
          omega
      _ ≤ num * 2 ^ (53 - log) := Nat.mul_le_mul_right _ least
  · have places : ((log : Int) - 53).natAbs = log - 53 := by omega
    rw [inUnits_of_nonneg above, places, ← Nat.pow_add]
    have whole : 53 + (log - 53) = log := by omega
    rwa [whole]

/-- A natural number other than zero becomes infinite if its power of two is too high. -/
theorem ofRatio_one_eq_infinite_iff {num : Nat} (nonzero : num ≠ 0) (negative : Bool) :
    (∃ sign, ofRatio negative num 1 = .infinite sign) ↔
      971 < exponentOf num ∨ 971 = exponentOf num ∧ mantissaOf num = 2 ^ 53 := by
  have guess : max leastExponent ((Nat.log2 num : Int) - Nat.log2 1 - precision) =
      (Nat.log2 num : Int) - 53 := by
    have one : Nat.log2 1 = 0 := by decide
    rw [one, leastExponent, precision]
    omega
  have up : (Nat.log2 num : Int) - 53 + 1 = exponentOf num := by
    rw [exponentOf]
    omega
  rw [ofRatio, if_neg nonzero]
  simp only [guess, greatestExponent]
  rw [if_pos (show Nat.pow 2 precision * _ ≤ _ from fills_units nonzero), up,
    show Nat.pow 2 precision = 2 ^ 53 from rfl, ← mantissaOf]
  by_cases carried : mantissaOf num = 2 ^ 53
  · simp only [carried, if_true]
    split_ifs with above
    · simp; omega
    · simp; omega
  · simp only [carried, if_false]
    split_ifs with above
    · simp; omega
    · simp; omega

/-! ### The end of the range -/

/-- The middle between the greatest number and the power of two that would follow it. -/
def overflowLimit : Nat := (2 ^ 54 - 1) * 2 ^ 970

theorem two_pow_add (m n : Nat) : 2 ^ (m + n) = 2 ^ n * 2 ^ m := by
  rw [Nat.pow_add, Nat.mul_comm]

/-- An integer becomes infinite from that middle on; a tie goes up. -/
theorem ofInt_eq_infinite_iff (i : Int) :
    (∃ sign, ofInt i = .infinite sign) ↔ overflowLimit ≤ i.natAbs := by
  rw [ofInt]
  generalize decide (i < 0) = negative
  generalize i.natAbs = num
  have power := two_pow_add 970
  have last (log : num.log2 = 970 + 53) : mantissaOf num = roundHalfEven num (2 * 2 ^ 970) := by
    have places : (((970 + 53 : Nat) : Int) - 52).natAbs = 970 + 1 := by decide
    rw [mantissaOf, exponentOf, log, inUnits_of_nonneg (by decide), places, power 1, Nat.pow_one]
  have positive : 0 < 2 ^ 970 := pow_pos Nat.two_pos 970
  -- nothing but the bounds above is needed of the power, which is too large to be computed with
  rw [overflowLimit]
  generalize 2 ^ 970 = unit at *
  rcases Nat.eq_zero_or_pos num with rfl | some
  · simp only [ofRatio, zero, if_true, reduceCtorEq, exists_false, false_iff]
    omega
  have nonzero := Nat.ne_of_gt some
  rw [ofRatio_one_eq_infinite_iff nonzero]
  have low : 2 ^ Nat.log2 num ≤ num := Nat.log2_self_le nonzero
  have high : num < 2 ^ (Nat.log2 num + 1) := Nat.lt_log2_self
  rcases Nat.lt_trichotomy (Nat.log2 num) (970 + 53) with below | log | above
  · have small : 2 ^ (Nat.log2 num + 1) ≤ 2 ^ (970 + 53) :=
      pow_le_pow_right₀ one_le_two below
    rw [power 53] at small
    rw [exponentOf]
    omega
  · have small : num < (2 ^ 53 - 1 + 1) * (2 * unit) := by
      rw [log, Nat.add_assoc, power (53 + 1)] at high
      omega
    have up := roundHalfEven_eq_succ_iff (q := 2 ^ 53 - 1) (by decide) small
    rw [last log, exponentOf, log]
    omega
  · have large : 2 ^ (970 + (53 + 1)) ≤ 2 ^ Nat.log2 num :=
      pow_le_pow_right₀ one_le_two above
    rw [power (53 + 1)] at large
    rw [exponentOf]
    omega

end TypedManifests.Binary64
