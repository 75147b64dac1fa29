import Mathlib.Analysis.Convex.SpecificFunctions.Basic
import Mathlib.Analysis.SpecialFunctions.Pow.Real

/-!
# AutoMlos.Lib.RateMonotonic

The utilization bound of rate-monotonic scheduling.

`n` tasks are within the bound if their shares `u` satisfy `(1 + u / n) ^ n ≤ c`,
which for the limit `c = 2` is `u ≤ n * (2 ^ (1 / n) - 1)`.  The power grows
with `n` (`one_add_div_pow_le`), so that what is within the bound of many tasks
is within that of fewer.
-/

namespace Lib

variable {c u v : ℝ} {k n : ℕ}

/-- **The power grows with the number of tasks**: by Bernoulli's inequality for
the exponent `n / k`. -/
theorem one_add_div_pow_le (hu : 0 ≤ u) (hk : 0 < k) (hkn : k ≤ n) :
    (1 + u / k) ^ k ≤ (1 + u / n) ^ n := by
  have hkpos : (0 : ℝ) < k := Nat.cast_pos.mpr hk
  have hnpos : (0 : ℝ) < n := Nat.cast_pos.mpr (Nat.lt_of_lt_of_le hk hkn)
  have hshare : 0 ≤ u / n := by positivity
  have hexponent : (1 : ℝ) ≤ n / k := by
    rw [one_le_div hkpos]
    exact Nat.cast_le.mpr hkn
  have hbernoulli : 1 + (n / k : ℝ) * (u / n) ≤ (1 + u / n) ^ (n / k : ℝ) :=
    one_add_mul_self_le_rpow_one_add (by linarith) hexponent
  have hproduct : (n / k : ℝ) * (u / n) = u / k := by
    field_simp
  rw [hproduct] at hbernoulli
  calc (1 + u / k) ^ k ≤ ((1 + u / n) ^ (n / k : ℝ)) ^ k := by gcongr
    _ = (1 + u / n) ^ ((n / k : ℝ) * k) := by
        rw [Real.rpow_mul (by linarith), Real.rpow_natCast]
    _ = (1 + u / n) ^ n := by
        rw [div_mul_cancel₀ _ hkpos.ne', Real.rpow_natCast]

/-- Shares within the bound of `n` tasks for the limit. -/
def WithinBound (c : ℝ) (n : ℕ) (u : ℝ) : Prop := (1 + u / n) ^ n ≤ c

/-- Smaller shares of fewer tasks are within the bound too. -/
theorem WithinBound.mono (h : WithinBound c n u) (hv : 0 ≤ v) (hvu : v ≤ u) (hk : 0 < k)
    (hkn : k ≤ n) : WithinBound c k v :=
  calc (1 + v / k) ^ k ≤ (1 + v / n) ^ n := one_add_div_pow_le hv hk hkn
    _ ≤ (1 + u / n) ^ n := by gcongr
    _ ≤ c := h

/-- One task with all the shares is within the bound. -/
theorem WithinBound.one_add_le (h : WithinBound c n u) (hn : 0 < n) (hu : 0 ≤ u) : 1 + u ≤ c := by
  have hone := h.mono hu le_rfl Nat.one_pos hn
  rwa [WithinBound, Nat.cast_one, div_one, pow_one] at hone

end Lib
