import Mathlib

/-!
# Floating-point numbers

A float is a rational number, an infinity or not a number.  True division of
integers rounds to the nearest float, ties to even; the quotients of interest
are within the normal range, where every float has 53 significant bits.
-/

namespace ParityGrid.Foundation

inductive Binary64 where
  | finite (value : ℚ)
  | infinite (negative : Bool)
  | nan
deriving DecidableEq

namespace Binary64

/-- `left < right`; no comparison with `nan` holds. -/
def lt : Binary64 → Binary64 → Bool
  | .finite left, .finite right => decide (left < right)
  | .finite _, .infinite negative => !negative
  | .infinite negative, .finite _ => negative
  | .infinite left, .infinite right => left && !right
  | _, _ => false

/-- The nearest integer to a quotient, ties to even. -/
def roundHalfEven (numerator denominator : ℕ) : ℕ :=
  let quotient := numerator / denominator
  let doubled := 2 * (numerator % denominator)
  if doubled < denominator then quotient
  else if denominator < doubled then quotient + 1
  else quotient + quotient % 2

/--
The nearest float to a quotient of positive integers.  The quotient over
`2 ^ exponent` has 53 or 54 bits before the last one is dropped.
-/
def nearest (numerator denominator : ℕ) : ℚ :=
  let guess : ℤ := numerator.log2 - denominator.log2 - 53
  let scaled := fun exponent : ℤ =>
    (numerator * 2 ^ (-exponent).toNat, denominator * 2 ^ exponent.toNat)
  let exponent :=
    if 2 ^ 53 * (scaled guess).2 ≤ (scaled guess).1 then guess + 1 else guess
  let significand := roundHalfEven (scaled exponent).1 (scaled exponent).2
  (significand * 2 ^ exponent.toNat : ℕ) / (2 ^ (-exponent).toNat : ℕ)

/-- `numerator / denominator`, for a positive denominator. -/
def trueDivision (numerator : ℤ) (denominator : ℕ) : Binary64 :=
  if numerator = 0 then .finite 0
  else if numerator < 0 then
    .finite (-nearest numerator.natAbs denominator)
  else .finite (nearest numerator.natAbs denominator)

theorem nearest_nonneg (numerator denominator : ℕ) :
    0 ≤ nearest numerator denominator := by
  unfold nearest
  exact div_nonneg (Nat.cast_nonneg _) (Nat.cast_nonneg _)

/-- A quotient that is not below a positive float has a positive numerator. -/
theorem pos_of_not_lt {numerator : ℤ} {denominator : ℕ} {bound : Binary64}
    (positive : lt (.finite 0) bound)
    (above : lt (trueDivision numerator denominator) bound = false) :
    0 < numerator := by
  by_contra notPositive
  have quotient : ∃ value ≤ 0,
      trueDivision numerator denominator = .finite value := by
    unfold trueDivision
    split
    · exact ⟨0, le_refl 0, rfl⟩
    · rw [if_pos (by omega)]
      exact ⟨_, neg_nonpos.mpr (nearest_nonneg _ _), rfl⟩
  rcases quotient with ⟨value, nonpositive, same⟩
  rw [same] at above
  cases bound with
  | finite bound =>
      have larger : 0 < bound := of_decide_eq_true positive
      have below : value < bound := lt_of_le_of_lt nonpositive larger
      simp [lt, below] at above
  | infinite negative => simp_all [lt]
  | nan => cases positive

/-- A second is a million microseconds, and a third of one is rounded. -/
example : trueDivision 1000000 1000000 = .finite 1 ∧
    trueDivision 1 3 ≠ .finite (1 / 3) := by decide +kernel

end Binary64

end ParityGrid.Foundation
