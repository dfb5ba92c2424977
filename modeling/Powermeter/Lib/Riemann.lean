import Mathlib.MeasureTheory.Integral.IntervalIntegral.Basic
import Powermeter.Lib.Sampled

/-!
# Sampled integrals and integrals

How far the integral of a sampled signal is from the integral of the signal itself: with
samples that are off by at most `q`, steps of at most `h` and a signal whose slope is at most
`L`, by at most `q + L * h` for each unit of time.
-/

namespace Sampled

open intervalIntegral
open scoped NNReal

variable {f : ℝ → ℝ} {L : ℝ≥0} {q h : ℝ}

/-- One step: the sample at its end stands for the whole step. -/
theorem abs_step_sub_le (hf : LipschitzWith L f) {a b y : ℝ} (hab : a ≤ b) (hstep : b - a ≤ h)
    (hy : |y - f b| ≤ q) : |y * (b - a) - ∫ x in a..b, f x| ≤ (q + L * h) * (b - a) := by
  have hpoint : ∀ x ∈ Set.uIoc a b, ‖y - f x‖ ≤ q + L * h := by
    intro x hx
    obtain ⟨hax, hxb⟩ := Set.uIoc_of_le hab ▸ hx
    have hdist : |b - x| ≤ h := by
      rw [abs_of_nonneg (sub_nonneg.mpr hxb)]
      linarith
    calc ‖y - f x‖ = |(y - f b) + (f b - f x)| := by rw [Real.norm_eq_abs]; congr 1; ring
      _ ≤ |y - f b| + |f b - f x| := abs_add_le _ _
      _ ≤ q + L * |b - x| := add_le_add hy (hf.dist_le_mul b x)
      _ ≤ q + L * h := by gcongr
  have hsub : ∫ x in a..b, (y - f x) = y * (b - a) - ∫ x in a..b, f x := by
    rw [integral_sub intervalIntegrable_const (hf.continuous.intervalIntegrable a b),
      integral_const, smul_eq_mul, mul_comm]
  rw [← hsub, ← Real.norm_eq_abs]
  refine (norm_integral_le_of_norm_le_const hpoint).trans_eq ?_
  rw [abs_of_nonneg (sub_nonneg.mpr hab)]

/-- **The error of a sampled integral** grows with the time only. -/
theorem abs_integral_sub_le (hf : LipschitzWith L f) {i t : ℕ → ℝ} (ht : Monotone t) (k : ℕ)
    (hi : ∀ j < k, |i (j + 1) - f (t (j + 1))| ≤ q) (hstep : ∀ j < k, t (j + 1) - t j ≤ h) :
    |integral i t k - ∫ x in t 0..t k, f x| ≤ (q + L * h) * (t k - t 0) := by
  induction k with
  | zero => simp
  | succ k ih =>
    have hbefore := ih (fun j hj => hi j (hj.trans k.lt_succ_self))
      fun j hj => hstep j (hj.trans k.lt_succ_self)
    have hlast := abs_step_sub_le hf (ht k.le_succ) (hstep k k.lt_succ_self) (hi k k.lt_succ_self)
    have hsplit : ((∫ x in t 0..t k, f x) + ∫ x in t k..t (k + 1), f x) =
        ∫ x in t 0..t (k + 1), f x :=
      integral_add_adjacent_intervals (hf.continuous.intervalIntegrable _ _)
        (hf.continuous.intervalIntegrable _ _)
    calc |integral i t (k + 1) - ∫ x in t 0..t (k + 1), f x|
        = |(integral i t k - ∫ x in t 0..t k, f x) +
            (i (k + 1) * (t (k + 1) - t k) - ∫ x in t k..t (k + 1), f x)| := by
          rw [integral_succ, ← hsplit]
          congr 1
          ring
      _ ≤ _ := abs_add_le _ _
      _ ≤ (q + L * h) * (t k - t 0) + (q + L * h) * (t (k + 1) - t k) := add_le_add hbefore hlast
      _ = (q + L * h) * (t (k + 1) - t 0) := by ring

theorem cast_integral (i t : ℕ → ℚ) (k : ℕ) :
    ((integral i t k : ℚ) : ℝ) = integral (fun j => (i j : ℝ)) (fun j => (t j : ℝ)) k := by
  unfold integral
  push_cast
  rfl

end Sampled
