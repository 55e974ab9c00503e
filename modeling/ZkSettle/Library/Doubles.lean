import Mathlib.Algebra.Group.Nat.Defs
import Mathlib.Tactic.Common

/-!
# Natural numbers as doubles

A double has 53 significant bits, so that a number below `2 ^ 53` is kept, and one above it is
rounded to a multiple of a power of two, in a tie to the even one. What does not stay below
`2 ^ 1024` is infinite.
-/
namespace Doubles

/-- How far apart the doubles are at a number that needs all of the bits. -/
def spacing (n : Nat) : Nat := 2 ^ (n.log2 - 52)

/-- The nearest multiple, in a tie the even one. -/
def roundEven (n step : Nat) : Nat :=
  let quotient := n / step
  let rest := n % step
  if step < 2 * rest ∨ (2 * rest = step ∧ quotient % 2 = 1) then (quotient + 1) * step
  else quotient * step

/-- From `2 ^ 1024` on a number is infinite. -/
def largestExponent : Nat := 1024

/-- The double of a number, or nothing when it is infinite. -/
def nearest (n : Nat) : Option Nat :=
  let rounded := roundEven n (spacing n)
  if rounded < 2 ^ largestExponent then some rounded else none

/-- Rounding does not go below the multiple under the number. -/
theorem le_roundEven (n step : Nat) : n / step * step ≤ roundEven n step := by
  simp only [roundEven]
  split
  · exact Nat.mul_le_mul_right step (Nat.le_succ _)
  · exact Nat.le_refl _

theorem nearest_of_lt {n : Nat} (small : n < 2 ^ 53) : nearest n = some n := by
  have log : n.log2 ≤ 52 := by
    rcases Nat.eq_zero_or_pos n with rfl | positive
    · decide
    · exact Nat.le_of_lt_succ ((Nat.log2_lt (by omega)).mpr small)
  -- every number is a double here
  have fine : spacing n = 1 := by rw [spacing, Nat.sub_eq_zero_of_le log, pow_zero]
  have same : roundEven n 1 = n := by simp [roundEven, Nat.mod_one]
  have wider : 2 ^ 53 ≤ 2 ^ largestExponent := Nat.pow_le_pow_right Nat.two_pos (by decide)
  have finite : n < 2 ^ largestExponent := Nat.lt_of_lt_of_le small wider
  rw [nearest, fine, same, if_pos finite]

/-- Only the number itself is rounded to a double below `2 ^ 53`. -/
theorem eq_of_nearest {n double : Nat} (rounded : nearest n = some double)
    (small : double < 2 ^ 53) : n = double := by
  by_contra differs
  have large : 2 ^ 53 ≤ n := by
    by_contra below
    rw [nearest_of_lt (Nat.not_le.mp below), Option.some.injEq] at rounded
    exact differs rounded
  have positive : n ≠ 0 := by
    rintro rfl
    exact absurd large (by decide)
  have log : 53 ≤ n.log2 := (Nat.le_log2 positive).mpr large
  -- at least `2 ^ 52` steps of at least two fit into the number
  have steps : 2 ^ 52 ≤ n / spacing n := by
    have step : 0 < spacing n := Nat.two_pow_pos _
    refine (Nat.le_div_iff_mul_le step).mpr ?_
    have whole : 52 + (n.log2 - 52) = n.log2 := by omega
    have log2_le := Nat.log2_self_le positive
    rwa [spacing, ← Nat.pow_add, whole]
  have coarse : 2 ≤ spacing n := by
    rw [spacing]
    exact Nat.le_self_pow (by omega) 2
  have least : 2 ^ 53 ≤ roundEven n (spacing n) :=
    Nat.le_trans (Nat.mul_le_mul steps coarse) (le_roundEven n (spacing n))
  simp only [nearest] at rounded
  split at rounded
  · cases rounded
    exact absurd small (Nat.not_lt.mpr least)
  · cases rounded

end Doubles
