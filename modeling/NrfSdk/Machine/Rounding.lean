import Mathlib.Tactic

/-!
Rounding to a multiple of a positive step the way C code does it with integer division,
`(value + step / 2) / step`, and clamping the quotient into a range of step counts with `MAX` and
`MIN`. Either way the multiple picked is a nearest one: no other multiple, or no other multiple with a
count in the range, lies closer to the value.
-/

namespace Machine

section Rounding

variable {step : Int}

def roundHalfUp (step value : Int) : Int := (value + step / 2) / step

def clampSteps (lo hi count : Int) : Int := min hi (max lo count)

theorem clampSteps_bounds {lo hi : Int} (ordered : lo ≤ hi) (count : Int) :
    lo ≤ clampSteps lo hi count ∧ clampSteps lo hi count ≤ hi := by
  unfold clampSteps
  omega

theorem roundHalfUp_bounds (positive : 0 < step) (value : Int) :
    roundHalfUp step value * step ≤ value + step / 2 ∧
      value + step / 2 < roundHalfUp step value * step + step := by
  have above := Int.lt_ediv_add_one_mul_self (value + step / 2) positive
  refine ⟨Int.ediv_mul_le _ positive.ne', ?_⟩
  rw [Int.add_mul, Int.one_mul] at above
  exact above

theorem mul_step_trichotomy (positive : 0 < step) (count other : Int) :
    step ≤ (other - count) * step ∨ other = count ∨ (other - count) * step ≤ -step := by
  rcases lt_trichotomy other count with below | same | above
  · right; right
    have apart : other - count ≤ -1 := by omega
    nlinarith
  · exact .inr (.inl same)
  · left
    have apart : 1 ≤ other - count := by omega
    nlinarith

theorem abs_sub_roundHalfUp_le (positive : 0 < step) (value other : Int) :
    |roundHalfUp step value * step - value| ≤ |other * step - value| := by
  obtain ⟨below, above⟩ := roundHalfUp_bounds positive value
  have split : other * step = (other - roundHalfUp step value) * step + roundHalfUp step value * step := by
    ring
  rcases mul_step_trichotomy positive (roundHalfUp step value) other with far | same | far
  · rw [split]
    simp only [abs_eq_max_neg]
    omega
  · rw [same]
  · rw [split]
    simp only [abs_eq_max_neg]
    omega

theorem abs_sub_clampSteps_le (positive : 0 < step) {lo hi : Int} (value : Int) {other : Int}
    (low : lo ≤ other) (high : other ≤ hi) :
    |clampSteps lo hi (roundHalfUp step value) * step - value| ≤ |other * step - value| := by
  obtain ⟨below, above⟩ := roundHalfUp_bounds positive value
  by_cases under : roundHalfUp step value < lo
  · have clamped : clampSteps lo hi (roundHalfUp step value) = lo := by
      unfold clampSteps
      omega
    have next : roundHalfUp step value * step + step ≤ lo * step := by nlinarith
    have farther : lo * step ≤ other * step := Int.mul_le_mul_of_nonneg_right low positive.le
    rw [clamped]
    simp only [abs_eq_max_neg]
    omega
  by_cases beyond : hi < roundHalfUp step value
  · have clamped : clampSteps lo hi (roundHalfUp step value) = hi := by
      unfold clampSteps
      omega
    have previous : hi * step + step ≤ roundHalfUp step value * step := by nlinarith
    have farther : other * step ≤ hi * step := Int.mul_le_mul_of_nonneg_right high positive.le
    rw [clamped]
    simp only [abs_eq_max_neg]
    omega
  · have kept : clampSteps lo hi (roundHalfUp step value) = roundHalfUp step value := by
      unfold clampSteps
      omega
    rw [kept]
    exact abs_sub_roundHalfUp_le positive value other

end Rounding

end Machine
