import Mathlib.Algebra.Order.Ring.Rat
import Mathlib.Data.Int.Cast.Lemmas
import RpiDashboard.Numeric.Double

/-! Range checks on doubles.  A check written as a rejection lets a NaN pass. -/

namespace RpiDashboard.Numeric.Double

variable {d a b : Double} {bound : ℚ}

theorem less_of_isNaN_left (h : a.isNaN) : a.less b = false := by
  simp [less, h]

theorem less_of_isNaN_right (h : b.isNaN) : a.less b = false := by
  simp [less, h]

theorem less_eq_lt (ha : a.isNaN = false) (hb : b.isNaN = false) : a.less b = a.lt b := by
  simp [less, ha, hb]

theorem not_isNaN_of_isFinite (h : d.isFinite) : d.isNaN = false := by
  have he : d.exponent < 2047 := of_decide_eq_true h
  simp [isNaN, he.ne]

/-- Of the numbers that are not finite, only a NaN is not of magnitude `2 ^ 1024`. -/
theorem toRat_of_infinite (hf : d.isFinite = false) (hn : d.isNaN = false) :
    d.toRat = if d.negative then -2 ^ 1024 else 2 ^ 1024 := by
  have he : d.exponent = 2047 := by
    have hle : d.exponent < 2 ^ 11 := Nat.mod_lt _ (by decide)
    have hge : ¬ d.exponent < 2047 := of_decide_eq_false hf
    omega
  have hfraction : d.fraction = 0 := by simpa [isNaN, he] using hn
  have hs : d.significand = 2 ^ 52 := by simp [significand, he, hfraction]
  have hshift : (2 : ℤ) ^ 52 * 2 ^ (2047 - 1075) = 2 ^ 1024 := (pow_add 2 52 972).symm
  simp only [toRat, hs, he, Nat.cast_pow, Nat.cast_ofNat, Nat.reduceLeDiff, sup_of_le_left,
    if_true]
  cases d.negative with
  | false => rw [if_neg Bool.false_ne_true, if_neg Bool.false_ne_true, hshift, Int.cast_pow,
      Int.cast_ofNat]
  | true => rw [if_pos rfl, if_pos rfl, neg_mul, hshift, Int.cast_neg, Int.cast_pow, Int.cast_ofNat]

theorem isFinite_of_magnitude (hn : d.isNaN = false) (hbound : bound < 2 ^ 1024)
    (hlower : -bound ≤ d.toRat) (hupper : d.toRat ≤ bound) : d.isFinite := by
  by_contra hf
  have heq := toRat_of_infinite (Bool.not_eq_true _ ▸ hf) hn
  cases hneg : d.negative with
  | false =>
    rw [heq, hneg, if_neg Bool.false_ne_true] at hupper
    exact absurd hbound (not_lt.mpr hupper)
  | true =>
    rw [heq, hneg, if_pos rfl] at hlower
    exact absurd hbound (not_lt.mpr (neg_le_neg_iff.mp hlower))

/-- What a rejection of the numbers below `a` and above `b` leaves. -/
theorem not_rejected_iff (ha : a.isNaN = false) (hb : b.isNaN = false) (hlower : a.toRat = -bound)
    (hupper : b.toRat = bound) (hbound : bound < 2 ^ 1024) :
    d.less a = false ∧ b.less d = false ↔ d.isNaN ∨ d.Within bound := by
  cases hn : d.isNaN with
  | true => simp [less_of_isNaN_left hn, less_of_isNaN_right hn]
  | false =>
    rw [less_eq_lt hn ha, less_eq_lt hb hn, lt, lt, decide_eq_false_iff_not,
      decide_eq_false_iff_not, not_lt, not_lt, hlower, hupper]
    constructor
    · exact fun h => .inr ⟨isFinite_of_magnitude hn hbound h.1 h.2, h.1, h.2⟩
    · rintro (h | h)
      · exact absurd h Bool.false_ne_true
      · exact ⟨h.lower, h.upper⟩

end RpiDashboard.Numeric.Double
