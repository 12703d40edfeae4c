import RpiDashboard.Numeric.NearestLaws

/-! Rounding keeps the order, and so do differences and quotients of doubles. -/

namespace RpiDashboard.Numeric

variable {q r : ℚ}

/-- Where rounding would swap two numbers, both are halfway, and so one number. -/
theorem roundEven_mono (h : q ≤ r) : roundEven q ≤ roundEven r := by
  by_contra hlt
  have hstep : (roundEven r : ℚ) + 1 ≤ roundEven q := by exact_mod_cast Int.not_le.mp hlt
  have hq := abs_le.mp (abs_roundEven_sub_le q)
  have hr := abs_le.mp (abs_roundEven_sub_le r)
  have heq : q = r := by linarith
  exact hlt (heq ▸ le_rfl)

namespace Double

variable {a b c d e : Double}

section Nearest

theorem lt_of_step (hq : 0 ≤ q) : q * 2 ^ 1074 < 2 ^ (stepExponent q + 53) := by
  refine (lt_two_pow_log2 (by positivity)).trans_le (pow_le_pow_right₀ one_le_two ?_)
  unfold stepExponent
  omega

theorem stepExponent_mono (hq : 0 ≤ q) (h : q ≤ r) : stepExponent q ≤ stepExponent r := by
  by_contra hlt
  have hlow := le_of_step_pos hq (by omega)
  have hhigh := lt_of_step (hq.trans h)
  have hunits : q * 2 ^ 1074 ≤ r * 2 ^ 1074 := mul_le_mul_of_nonneg_right h (by positivity)
  have hpow := (pow_lt_pow_iff_right₀ (one_lt_two (α := ℚ))).mp
    ((hlow.trans hunits).trans_lt hhigh)
  omega

theorem nearest_mono (hq : 0 ≤ q) (h : q ≤ r) : nearest q ≤ nearest r := by
  have hr : 0 ≤ r := hq.trans h
  rcases (stepExponent_mono hq h).eq_or_lt with heq | hlt
  · rw [nearest_eq_step, nearest_eq_step, ← heq]
    refine min_le_min_right _ (Nat.add_le_add_left (Int.toNat_le_toNat (roundEven_mono ?_)) _)
    exact div_le_div_of_nonneg_right (mul_le_mul_of_nonneg_right h (by positivity))
      (by positivity)
  · -- The power of two at which the step of `r` begins is between them.
    rcases Nat.lt_or_ge (stepExponent r) 2047 with hsmall | hlarge
    · have hbelow : q * 2 ^ 1074 ≤ 2 ^ (stepExponent r + 1 + 51) :=
        (lt_of_step hq).le.trans (pow_le_pow_right₀ one_le_two (by omega))
      have habove : 2 ^ (stepExponent r + 1 + 51) ≤ r * 2 ^ 1074 :=
        le_of_step_pos hr (Nat.zero_lt_of_lt hlt)
      exact (nearest_le hbelow hq (by omega)).trans (le_nearest habove (by omega) (by omega))
    · have hinfinite : nearest r = 2047 * 2 ^ 52 := by
        rw [nearest_eq_step, min_eq_right]
        omega
      rw [hinfinite]
      exact nearest_le_infinity q

theorem nearest_units {n : Nat} (h : n < 2 ^ 53) : nearest (n / 2 ^ 1074) = n := by
  have hfloor : (n : ℚ).floor = n := Rat.floor_intCast n
  have hunits : (n : ℚ) / 2 ^ 1074 * 2 ^ 1074 = n := div_mul_cancel₀ _ (by positivity)
  have hshift : n.log2 - 52 = 0 := by
    rcases eq_or_ne n 0 with rfl | hne
    · rfl
    · have hlog := log2_lt hne h
      omega
  have hround : roundEven n = n := (roundEven_le le_rfl).antisymm (le_roundEven le_rfl)
  simp only [nearest, hunits, hfloor, Int.toNat_natCast, hshift, pow_zero, div_one, hround,
    Nat.zero_mul, Nat.zero_add]
  omega

theorem nearest_zero : nearest 0 = 0 := by simpa using nearest_units (n := 0) (by decide)

theorem units_of_subnormal (h : d.pattern < 2 ^ 52) : d.units = d.pattern := by
  have hexponent : d.exponent = 0 := by
    unfold pattern at h
    omega
  simp [units, significand, pattern, hexponent]

end Nearest

section Order

theorem units_mono (h : d.pattern ≤ e.pattern) : d.units ≤ e.units := by
  have hd := fraction_lt d
  have he := fraction_lt e
  have hexponent : d.exponent ≤ e.exponent := by
    unfold pattern at h
    omega
  rcases hexponent.eq_or_lt with heq | hlt
  · have hfraction : d.fraction ≤ e.fraction := by
      unfold pattern at h
      omega
    have hsignificand : d.significand ≤ e.significand := by
      unfold significand
      rw [heq]
      split <;> omega
    rw [units, units, heq]
    exact Nat.mul_le_mul_right _ hsignificand
  · have hbelow : d.pattern ≤ (d.exponent + 1) * 2 ^ 52 := by
      unfold pattern
      omega
    have habove : (d.exponent + 1) * 2 ^ 52 ≤ e.pattern := by
      unfold pattern
      omega
    exact (units_le (Nat.succ_pos _) hbelow).trans (le_units (Nat.succ_pos _) habove)

theorem toRat_mono (hd : d.negative = false) (he : e.negative = false)
    (h : d.pattern ≤ e.pattern) : d.toRat ≤ e.toRat := by
  rw [toRat_of_not_negative hd, toRat_of_not_negative he]
  exact div_le_div_of_nonneg_right (Nat.cast_le.mpr (units_mono h)) (by positivity)

theorem ofRat_negative (hq : 0 ≤ q) : (ofRat q).negative = false := by
  rw [ofRat, ofSign_negative (nearest_lt _), decide_eq_false_iff_not]
  exact not_lt.mpr hq

theorem ofRat_mono (hq : 0 ≤ q) (h : q ≤ r) : (ofRat q).toRat ≤ (ofRat r).toRat := by
  refine toRat_mono (ofRat_negative hq) (ofRat_negative (hq.trans h)) ?_
  rw [ofRat_pattern, ofRat_pattern, abs_of_nonneg hq, abs_of_nonneg (hq.trans h)]
  exact nearest_mono hq h

/-- Subnormal numbers are exact. -/
theorem toRat_ofRat_units {n : Nat} (h : n < 2 ^ 52) :
    (ofRat (n / 2 ^ 1074)).toRat = n / 2 ^ 1074 := by
  have hq : (0 : ℚ) ≤ n / 2 ^ 1074 := by positivity
  have hpattern : (ofRat (n / 2 ^ 1074)).pattern = n := by
    rw [ofRat_pattern, abs_of_nonneg hq, nearest_units (h.trans (by decide))]
  rw [toRat_of_not_negative (ofRat_negative hq), units_of_subnormal (hpattern.trans_lt h),
    hpattern]

/-- The least positive double. -/
theorem ofRat_least : (ofRat (1 / 2 ^ 1074)).toRat = 1 / 2 ^ 1074 := by
  exact_mod_cast toRat_ofRat_units (n := 1) (by decide)

theorem exists_units (d : Double) : ∃ n : Int, d.toRat = n / 2 ^ 1074 := by
  rw [toRat_eq]
  cases d.negative with
  | false => exact ⟨d.units, by simp⟩
  | true => exact ⟨-d.units, by simp [neg_div]⟩

/-- Doubles that differ have a difference: no gap is below the least double. -/
theorem sub_pos (h : b.toRat < a.toRat) : 0 < (sub a b).toRat := by
  have hgap : 1 / 2 ^ 1074 ≤ a.toRat - b.toRat := by
    obtain ⟨m, hm⟩ := exists_units a
    obtain ⟨n, hn⟩ := exists_units b
    rw [hm, hn, div_lt_div_iff_of_pos_right (by positivity)] at h
    have hstep : (n : ℚ) + 1 ≤ m := by exact_mod_cast h
    rw [hm, hn, ← sub_div]
    exact div_le_div_of_nonneg_right (by linarith) (by positivity)
  have hleast := ofRat_mono (by positivity) hgap
  rw [ofRat_least] at hleast
  exact lt_of_lt_of_le (by positivity) hleast

theorem sub_negative (h : b.toRat ≤ a.toRat) : (sub a b).negative = false :=
  ofRat_negative (sub_nonneg.mpr h)

theorem sub_mono (h : c.toRat ≤ a.toRat) (hab : a.toRat ≤ b.toRat) :
    (sub a c).toRat ≤ (sub b c).toRat :=
  ofRat_mono (sub_nonneg.mpr h) (sub_le_sub_right hab _)

theorem sub_of_eq (h : a.toRat = b.toRat) : (sub a b).toRat = 0 := by
  rw [sub, h, sub_self]
  simpa using toRat_ofRat_units (n := 0) (by decide)

theorem div_negative_of_nonneg (ha : a.negative = false) (hb : b.negative = false) :
    (div a b).negative = false := by
  rw [div_negative, ha, hb]
  rfl

theorem div_mono (ha : a.negative = false) (hb : b.negative = false) (hc : c.negative = false)
    (h : a.toRat ≤ b.toRat) : (div a c).toRat ≤ (div b c).toRat := by
  refine toRat_mono (div_negative_of_nonneg ha hc) (div_negative_of_nonneg hb hc) ?_
  have hquotient : 0 ≤ a.toRat / c.toRat := div_nonneg (toRat_nonneg ha) (toRat_nonneg hc)
  have hle : a.toRat / c.toRat ≤ b.toRat / c.toRat :=
    div_le_div_of_nonneg_right h (toRat_nonneg hc)
  rw [div_pattern, div_pattern, abs_of_nonneg hquotient, abs_of_nonneg (hquotient.trans hle)]
  exact nearest_mono hquotient hle

theorem div_of_zero (h : a.toRat = 0) : (div a b).toRat = 0 := by
  have hpattern : (div a b).pattern = 0 := by
    rw [div_pattern, h, zero_div, abs_zero, nearest_zero]
  have hunits : (div a b).units = 0 := by
    rw [units_of_subnormal (by omega), hpattern]
  rw [← abs_eq_zero, abs_toRat, hunits]
  simp

theorem div_same (hb : b.negative = false) (h : a.toRat = b.toRat) (hpos : 0 < b.toRat) :
    (div a b).toRat = 1 := by
  have ha : a.negative = false := by
    by_contra hnegative
    have hnonpos := toRat_nonpos (Bool.eq_true_of_not_eq_false hnegative)
    linarith
  have hle := (isRatio_div ha hb h.le).2.2
  have hge : 1 ≤ |(div a b).toRat| * 2 ^ 0 := by
    refine le_abs_toRat_div (by decide) ?_
    rw [h, div_self hpos.ne', abs_one, pow_zero, mul_one]
  rw [abs_of_nonneg (toRat_nonneg (div_negative_of_nonneg ha hb)), pow_zero, mul_one] at hge
  exact hle.antisymm hge

end Order

end Double

end RpiDashboard.Numeric
