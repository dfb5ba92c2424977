import Mathlib.Algebra.BigOperators.Intervals
import Mathlib.Algebra.Order.Field.Basic
import Mathlib.Tactic.Linarith

/-!
# Integrals of sampled signals

`integral i t k` is the integral from `t 0` to `t k` of the signal whose value
between `t j` and `t (j + 1)` is the sample `i (j + 1)` taken at the end of that
interval.
-/

namespace Sampled

open Finset

variable {K : Type*} [Field K]

def integral (i t : ℕ → K) (k : ℕ) : K := ∑ j ∈ range k, i (j + 1) * (t (j + 1) - t j)

@[simp] theorem integral_zero (i t : ℕ → K) : integral i t 0 = 0 := rfl

theorem integral_succ (i t : ℕ → K) (k : ℕ) :
    integral i t (k + 1) = integral i t k + i (k + 1) * (t (k + 1) - t k) :=
  sum_range_succ _ _

variable [LinearOrder K] [IsStrictOrderedRing K]

theorem integral_le_succ {i t : ℕ → K} {k : ℕ} (hi : 0 ≤ i (k + 1)) (ht : t k ≤ t (k + 1)) :
    integral i t k ≤ integral i t (k + 1) := by
  rw [integral_succ]
  have := mul_nonneg hi (sub_nonneg.mpr ht)
  linarith

theorem integral_mono {i t : ℕ → K} (hi : ∀ j, 0 ≤ i j) (ht : Monotone t) :
    Monotone (integral i t) :=
  monotone_nat_of_le_succ fun k => integral_le_succ (hi (k + 1)) (ht (Nat.le_succ k))

end Sampled
