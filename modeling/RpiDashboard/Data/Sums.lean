import Mathlib.Algebra.Order.BigOperators.Group.List
import Mathlib.Algebra.Order.Ring.Nat
import Mathlib.Data.UInt

/-! Sums of lists: of machine words, and compared with their average. -/

namespace RpiDashboard

theorem toNat_sum (values : List UInt64) :
    values.sum.toNat = (values.map UInt64.toNat).sum % 2 ^ 64 := by
  induction values with
  | nil => rfl
  | cons value values ih =>
    rw [List.sum_cons, List.map_cons, List.sum_cons, UInt64.toNat_add, ih, Nat.add_mod_mod]

/-- An average is neither below all of the numbers nor above them. -/
theorem exists_le_average {values : List Nat} (hne : values ≠ []) :
    (∃ value ∈ values, value ≤ values.sum / values.length) ∧
      ∃ value ∈ values, values.sum / values.length ≤ value := by
  have hlength : 0 < values.length := List.length_pos_iff.mpr hne
  constructor
  · have hlt : (values.map id).sum < (values.map fun _ => values.sum / values.length + 1).sum := by
      have := Nat.lt_mul_div_succ values.sum hlength
      simpa using this
    obtain ⟨value, hmem, hvalue⟩ := List.exists_lt_of_sum_lt _ _ hlt
    exact ⟨value, hmem, Nat.le_of_lt_succ hvalue⟩
  · have hle : (values.map fun _ => values.sum / values.length).sum ≤ (values.map id).sum := by
      have := Nat.mul_div_le values.sum values.length
      simpa using this
    exact List.exists_le_of_sum_le hne _ _ hle

end RpiDashboard
