import RpiDashboard.Numeric.RoundingLaws

/-! Laws of the nearest double: its value, how far it is from what is rounded, and that a
quotient by an integer is not rounded across the middle between two integers. -/

namespace RpiDashboard.Numeric

section RoundEven

variable {q : ℚ}

theorem abs_roundEven_sub_le (q : ℚ) : |(roundEven q : ℚ) - q| ≤ 1 / 2 := by
  have hfloor : (q.floor : ℚ) ≤ q := Int.floor_le q
  have hlt : q < q.floor + 1 := Int.lt_floor_add_one q
  unfold roundEven
  dsimp only
  rw [abs_le]
  split
  case isTrue h =>
    have hrest : q - q.floor ≤ 1 / 2 := h.elim le_of_lt fun heven => heven.1.le
    constructor <;> linarith
  case isFalse h =>
    have hrest : 1 / 2 ≤ q - q.floor := not_lt.mp fun hr => h (Or.inl hr)
    push_cast
    constructor <;> linarith

end RoundEven

namespace Double

variable {a d : Double} {q : ℚ} {s N : Nat}

section Value

/-- The value of a pattern by its step and its significand, which may be the next power of two. -/
theorem units_of_pattern (hN : N ≤ 2 ^ 53) (hs : s = 0 ∨ 2 ^ 52 ≤ N)
    (h : d.pattern = s * 2 ^ 52 + N) : d.units = N * 2 ^ s := by
  have hfraction := fraction_lt d
  unfold pattern at h
  unfold units significand
  rcases Nat.lt_or_ge N (2 ^ 52) with hsub | hnormal
  · have hzero : s = 0 := hs.resolve_right (by omega)
    have hexponent : d.exponent = 0 := by omega
    rw [if_pos hexponent, hexponent, hzero]
    have hvalue : d.fraction = N := by omega
    rw [hvalue]
    rfl
  · rcases Nat.lt_or_ge N (2 ^ 53) with hlt | hge
    · have hexponent : d.exponent = s + 1 := by omega
      have hvalue : 2 ^ 52 + d.fraction = N := by omega
      have hshift : max (s + 1) 1 - 1 = s := by omega
      rw [if_neg (by omega), hexponent, hvalue, hshift]
    · have hexponent : d.exponent = s + 2 := by omega
      have hvalue : d.fraction = 0 := by omega
      have htop : N = 2 ^ 53 := by omega
      rw [if_neg (by omega), hexponent, hvalue, htop]
      have hshift : max (s + 2) 1 - 1 = s + 1 := by omega
      rw [hshift, Nat.add_zero, ← pow_add, ← pow_add]
      congr 1
      omega

/-- The exponent of the step between the doubles around `q`, in units. -/
def stepExponent (q : ℚ) : Nat := (q * 2 ^ 1074).floor.toNat.log2 - 52

theorem nearest_eq_step (q : ℚ) : nearest q =
    min (stepExponent q * 2 ^ 52 + (roundEven (q * 2 ^ 1074 / 2 ^ stepExponent q)).toNat)
      (2047 * 2 ^ 52) := rfl

theorem step_lt {k : Nat} (hq : 0 ≤ q) (hk : 1 ≤ k) (h : q * 2 ^ 1074 < 2 ^ (k + 52)) :
    stepExponent q < k := by
  have hunits : 0 ≤ q * 2 ^ 1074 := by positivity
  have hle := two_pow_log2_le hunits
  unfold stepExponent
  by_contra hge
  have hpow := hle (by omega)
  have hlt := (pow_lt_pow_iff_right₀ (one_lt_two (α := ℚ))).mp (hpow.trans_lt h)
  omega

/-- The units of the nearest double are the nearest multiple of the step. -/
theorem units_of_nearest (hq : 0 ≤ q) (hmax : q < 2 ^ 1023) (h : d.pattern = nearest q) :
    d.units = (roundEven (q * 2 ^ 1074 / 2 ^ stepExponent q)).toNat * 2 ^ stepExponent q := by
  have hunits : 0 ≤ q * 2 ^ 1074 := by positivity
  have hlt := lt_two_pow_log2 hunits
  have hle := two_pow_log2_le hunits
  have hstep : stepExponent q < 2045 := by
    have hexponent : 2045 + 52 = 1023 + 1074 := by omega
    refine step_lt hq (by decide) ?_
    rw [hexponent, pow_add]
    exact mul_lt_mul_of_pos_right hmax (by positivity)
  have hround : (roundEven (q * 2 ^ 1074 / 2 ^ stepExponent q)).toNat ≤ 2 ^ 53 := by
    refine round_le (hlt.le.trans (pow_le_pow_right₀ one_le_two ?_))
    unfold stepExponent
    omega
  have hnormal : stepExponent q = 0 ∨
      2 ^ 52 ≤ (roundEven (q * 2 ^ 1074 / 2 ^ stepExponent q)).toNat := by
    rcases Nat.eq_zero_or_pos (stepExponent q) with hzero | hpos
    · exact Or.inl hzero
    · unfold stepExponent at hpos ⊢
      have hne : (q * 2 ^ 1074).floor.toNat.log2 ≠ 0 := by omega
      refine Or.inr (le_round (le_trans (pow_le_pow_right₀ one_le_two ?_) (hle hne)))
      omega
  refine units_of_pattern hround hnormal ?_
  rw [h, nearest_eq_step, Nat.min_eq_left]
  omega

theorem abs_units_sub_le (hq : 0 ≤ q) (hmax : q < 2 ^ 1023) (h : d.pattern = nearest q) :
    |(d.units : ℚ) - q * 2 ^ 1074| ≤ 2 ^ stepExponent q / 2 := by
  have hpos : (0 : ℚ) < 2 ^ stepExponent q := by positivity
  have hround : 0 ≤ roundEven (q * 2 ^ 1074 / 2 ^ stepExponent q) :=
    le_roundEven (by rw [Int.cast_zero]; positivity)
  have hcast : ((roundEven (q * 2 ^ 1074 / 2 ^ stepExponent q)).toNat : ℚ) =
      (roundEven (q * 2 ^ 1074 / 2 ^ stepExponent q) : ℚ) := by
    rw [← Int.cast_natCast, Int.toNat_of_nonneg hround]
  have herror := abs_roundEven_sub_le (q * 2 ^ 1074 / 2 ^ stepExponent q)
  rw [units_of_nearest hq hmax h, Nat.cast_mul, hcast, Nat.cast_pow, Nat.cast_ofNat]
  calc |(roundEven (q * 2 ^ 1074 / 2 ^ stepExponent q) : ℚ) * 2 ^ stepExponent q - q * 2 ^ 1074|
      = |((roundEven (q * 2 ^ 1074 / 2 ^ stepExponent q) : ℚ) -
          q * 2 ^ 1074 / 2 ^ stepExponent q) * 2 ^ stepExponent q| := by
        rw [sub_mul, div_mul_cancel₀ _ hpos.ne']
    _ = |(roundEven (q * 2 ^ 1074 / 2 ^ stepExponent q) : ℚ) -
          q * 2 ^ 1074 / 2 ^ stepExponent q| * 2 ^ stepExponent q := by
        rw [abs_mul, abs_of_pos hpos]
    _ ≤ 1 / 2 * 2 ^ stepExponent q := mul_le_mul_of_nonneg_right herror hpos.le
    _ = 2 ^ stepExponent q / 2 := by ring

/-- What is at least a multiple of the step is not rounded below it. -/
theorem le_units_of_nearest (hq : 0 ≤ q) (hmax : q < 2 ^ 1023) (h : d.pattern = nearest q)
    (hle : ((N * 2 ^ stepExponent q : Nat) : ℚ) ≤ q * 2 ^ 1074) :
    N * 2 ^ stepExponent q ≤ d.units := by
  have hpos : (0 : ℚ) < 2 ^ stepExponent q := by positivity
  rw [units_of_nearest hq hmax h]
  refine Nat.mul_le_mul_right _ (Int.ofNat_le.mp ?_)
  refine (le_roundEven ?_).trans (Int.self_le_toNat _)
  rw [le_div_iff₀ hpos]
  push_cast at hle ⊢
  exact hle

theorem lt_of_step_eq_zero (hq : 0 ≤ q) (h : stepExponent q = 0) : q * 2 ^ 1074 < 2 ^ 53 := by
  refine (lt_two_pow_log2 (by positivity)).trans_le (pow_le_pow_right₀ one_le_two ?_)
  unfold stepExponent at h
  omega

theorem le_of_step_pos (hq : 0 ≤ q) (h : 0 < stepExponent q) :
    2 ^ (stepExponent q + 52) ≤ q * 2 ^ 1074 := by
  have hunits : 0 ≤ q * 2 ^ 1074 := by positivity
  unfold stepExponent at h ⊢
  have hexponent : (q * 2 ^ 1074).floor.toNat.log2 - 52 + 52 = (q * 2 ^ 1074).floor.toNat.log2 := by
    omega
  rw [hexponent]
  exact two_pow_log2_le hunits (by omega)

end Value

section Quotient

variable {c n : Nat}

/-- The exponent of the step from a double to the next, in units. -/
def shift (a : Double) : Nat := max a.exponent 1 - 1

theorem units_eq (a : Double) : a.units = a.significand * 2 ^ a.shift := rfl

theorem shift_lt {k : Nat} (h : a.units < 2 ^ (k + 52)) (hk : 0 < k) : a.shift < k := by
  unfold shift
  rcases Nat.eq_zero_or_pos a.exponent with hzero | hpos
  · omega
  · have hle : 2 ^ (a.shift + 52) ≤ a.units := by
      rw [units_eq, significand, if_neg hpos.ne', pow_add, Nat.mul_comm]
      exact Nat.mul_le_mul_right _ (Nat.le_add_right _ _)
    have := (Nat.pow_lt_pow_iff_right (by decide)).mp (hle.trans_lt h)
    unfold shift at this
    omega

theorem units_lt {k : Nat} (h : |a.toRat| < 2 ^ k) : a.units < 2 ^ (1074 + k) := by
  rw [abs_toRat, div_lt_iff₀ (by positivity), mul_comm, ← pow_add] at h
  exact_mod_cast h

theorem quotient_units (hc : c < 2 ^ 53) :
    |a.toRat / (ofInt c).toRat| * 2 ^ 1074 = a.units / c := by
  rw [toRat_ofInt hc, abs_div, abs_toRat, Nat.abs_cast]
  field_simp

/-- Below a multiple of its step a double is a whole step below. -/
theorem units_gap {m k : Nat} (hk : a.shift ≤ k) (h : a.units < m * 2 ^ k) :
    a.units + 2 ^ a.shift ≤ m * 2 ^ k := by
  have hmultiple : m * 2 ^ k = m * 2 ^ (k - a.shift) * 2 ^ a.shift := by
    rw [Nat.mul_assoc, ← pow_add, Nat.sub_add_cancel hk]
  rw [units_eq, hmultiple] at h
  rw [units_eq, hmultiple, ← Nat.succ_mul]
  exact Nat.mul_le_mul_right _ (Nat.lt_of_mul_lt_mul_right h)

/-- A quotient that is a whole step of the dividend below does not round up to what it is below. -/
theorem lt_of_gap {middle : Nat} {units : ℚ} (hq : 0 ≤ q) (hpos : 0 < c)
    (hquotient : q * 2 ^ 1074 = a.units / c) (hgap : a.units + 2 ^ a.shift ≤ c * middle)
    (hlow : 2 ^ 54 ≤ middle) (herror : units - q * 2 ^ 1074 ≤ 2 ^ stepExponent q / 2) :
    units < middle := by
  have hcast : (0 : ℚ) < c := Nat.cast_pos.mpr hpos
  by_contra hnot
  have hreached : (middle : ℚ) ≤ units := not_lt.mp hnot
  rcases Nat.eq_zero_or_pos (stepExponent q) with hzero | hstepPos
  · -- Quotients this small are below all that is as large.
    have hsub := lt_of_step_eq_zero hq hzero
    have hlarge : ((2 ^ 54 : Nat) : ℚ) ≤ middle := Nat.cast_le.mpr hlow
    rw [hzero, pow_zero] at herror
    rw [Nat.cast_pow, Nat.cast_ofNat] at hlarge
    generalize q * 2 ^ 1074 = quotient at herror hsub
    linarith
  · -- The half step that was rounded away is less than the dividend's.
    have hnormal := le_of_step_pos hq hstepPos
    rw [hquotient, le_div_iff₀ hcast, pow_add] at hnormal
    have hrounded : ((middle : ℚ) - 2 ^ stepExponent q / 2) * c ≤ a.units := by
      rw [hquotient] at herror
      rw [← le_div_iff₀ hcast]
      linarith
    have hgapCast : (a.units : ℚ) + 2 ^ a.shift ≤ c * middle := by
      exact_mod_cast hgap
    have hsignificand : (a.units : ℚ) < 2 ^ 53 * 2 ^ a.shift := by
      have hlt : a.units < 2 ^ 53 * 2 ^ a.shift :=
        Nat.mul_lt_mul_of_pos_right (significand_lt a) (by positivity)
      exact_mod_cast hlt
    linarith

/-- The middle between two integers is reached by the rounded quotient exactly if the quotient
reaches it. -/
theorem middle_le_units_div_iff (ha : |a.toRat| < 2 ^ 52) (hpos : 0 < c) (hc : c < 2 ^ 53) :
    (2 * n + 1) * 2 ^ 1073 ≤ (div a (ofInt c)).units ↔ c * ((2 * n + 1) * 2 ^ 1073) ≤ a.units := by
  have hunits := units_lt ha
  have hcast : (0 : ℚ) < c := Nat.cast_pos.mpr hpos
  have hquotient : |a.toRat / (ofInt c).toRat| * 2 ^ 1074 = a.units / c := quotient_units hc
  have hpattern := div_pattern (a := a) (b := ofInt c)
  have hq : 0 ≤ |a.toRat / (ofInt c).toRat| := abs_nonneg _
  generalize |a.toRat / (ofInt c).toRat| = q at hquotient hpattern hq
  have hsmall : q * 2 ^ 1074 < 2 ^ (1074 + 52) := by
    rw [hquotient, div_lt_iff₀ hcast]
    have hbound : (a.units : ℚ) < ((2 ^ (1074 + 52) : Nat) : ℚ) := Nat.cast_lt.mpr hunits
    rw [Nat.cast_pow, Nat.cast_ofNat] at hbound
    exact hbound.trans_le (le_mul_of_one_le_right (by positivity) (Nat.one_le_cast.mpr hpos))
  have hmax : q < 2 ^ 1023 := by
    refine lt_of_mul_lt_mul_right (hsmall.trans ?_) (by positivity : (0 : ℚ) ≤ 2 ^ 1074)
    rw [← pow_add]
    exact pow_lt_pow_right₀ one_lt_two (by decide)
  have hstep : stepExponent q < 1074 := step_lt hq (by decide) hsmall
  have hmiddle : (2 * n + 1) * 2 ^ 1073 =
      (2 * n + 1) * 2 ^ (1073 - stepExponent q) * 2 ^ stepExponent q := by
    rw [Nat.mul_assoc, ← pow_add, Nat.sub_add_cancel (by omega)]
  constructor
  · intro hle
    by_contra hlt
    have hshift : a.shift < 1074 := shift_lt hunits (by decide)
    have hgap : a.units + 2 ^ a.shift ≤ c * (2 * n + 1) * 2 ^ 1073 :=
      units_gap (Nat.le_of_lt_succ hshift) (by rw [Nat.mul_assoc]; exact Nat.not_le.mp hlt)
    have hlow : 2 ^ 54 ≤ (2 * n + 1) * 2 ^ 1073 :=
      (Nat.pow_le_pow_right (by decide) (by decide)).trans
        (Nat.le_mul_of_pos_left (2 ^ 1073) (Nat.succ_pos (2 * n)))
    have herror := (abs_le.mp (abs_units_sub_le hq hmax hpattern)).2
    rw [Nat.mul_assoc] at hgap
    have hbelow := lt_of_gap hq hpos hquotient hgap hlow herror
    exact (Nat.cast_lt.mp hbelow).not_ge hle
  · intro hle
    rw [hmiddle]
    refine le_units_of_nearest hq hmax hpattern ?_
    rw [← hmiddle, hquotient, le_div_iff₀ hcast, mul_comm]
    exact_mod_cast hle

theorem below_middle_iff {x : Nat} (hpos : 0 < c) :
    (x : ℚ) / 2 ^ 1074 / c < ((n + 1 : Nat) : Int) - 1 / 2 ↔ x < c * ((2 * n + 1) * 2 ^ 1073) := by
  have hcast : (0 : ℚ) < c := Nat.cast_pos.mpr hpos
  have hmiddle : (((n + 1 : Nat) : Int) - 1 / 2) * (c : ℚ) * 2 ^ 1074 =
      ((c * ((2 * n + 1) * 2 ^ 1073) : Nat) : ℚ) := by
    push_cast
    rw [pow_succ' 2 1073]
    generalize (2 : ℚ) ^ 1073 = half
    ring
  rw [div_lt_iff₀ hcast, div_lt_iff₀ (by positivity), hmiddle, Nat.cast_lt]

/-- A quotient by an integer is rounded to the same integer as before it was a double. -/
theorem round_div_ofInt (ha : |a.toRat| < 2 ^ 52) (hpos : 0 < c) (hc : c < 2 ^ 53) :
    (div a (ofInt c)).round = roundAway (a.toRat / c) := by
  have hmagnitude : roundAway |(div a (ofInt c)).toRat| = roundAway |a.toRat / c| := by
    refine roundAway_congr (abs_nonneg _) (abs_nonneg _) fun n hn => ?_
    obtain ⟨n, rfl⟩ := Int.eq_succ_of_zero_lt hn
    have hrounded := below_middle_iff (x := (div a (ofInt c)).units) (n := n) one_pos
    have hexact := below_middle_iff (x := a.units) (n := n) hpos
    rw [Nat.cast_one, div_one, Nat.one_mul] at hrounded
    rw [abs_div, abs_toRat, abs_toRat, Nat.abs_cast]
    exact hrounded.trans ((not_le.symm.trans (middle_le_units_div_iff ha hpos hc).not).trans
      (not_le.trans hexact.symm))
  have hsign : (div a (ofInt c)).negative = a.negative := by
    have hnonneg : ¬ (c : Int) < 0 := by omega
    rw [div_negative, ofInt_negative (i := c) (k := 53) (by decide) hc, decide_eq_false hnonneg,
      Bool.bne_false]
  rw [round_eq]
  cases hnegative : a.negative with
  | false =>
    have hquotient : 0 ≤ a.toRat / c := div_nonneg (toRat_nonneg hnegative) (Nat.cast_nonneg c)
    rwa [abs_of_nonneg (toRat_nonneg (hsign.trans hnegative)), abs_of_nonneg hquotient]
      at hmagnitude
  | true =>
    have hquotient : a.toRat / c ≤ 0 :=
      div_nonpos_of_nonpos_of_nonneg (toRat_nonpos hnegative) (Nat.cast_nonneg c)
    rwa [abs_of_nonpos (toRat_nonpos (hsign.trans hnegative)), abs_of_nonpos hquotient,
      roundAway_neg, roundAway_neg, neg_inj] at hmagnitude

/-- The middles between integers among the doubles. -/
theorem abs_toRat_lt_of_odd {m : Nat} (h : |a.toRat| * 2 = (2 * m + 1 : Nat)) :
    |a.toRat| < 2 ^ 52 := by
  have hcast {x y k : Nat} (hxy : (x : ℚ) = y * 2 ^ k) : x = y * 2 ^ k := by exact_mod_cast hxy
  have hunits : a.units = (2 * m + 1) * 2 ^ 1073 := by
    have hpow : (2 : ℚ) ^ 1074 = 2 * 2 ^ 1073 := pow_succ' 2 1073
    rw [abs_toRat, hpow, ← div_div, div_right_comm, div_mul_cancel₀ _ two_ne_zero,
      div_eq_iff (by positivity)] at h
    exact hcast h
  have hshift : a.shift ≤ 1073 := by
    by_contra hlarge
    have heven : 2 ^ (a.shift - 1074) * 2 * 2 ^ 1073 = 2 ^ a.shift := by
      rw [Nat.mul_assoc, ← pow_succ', ← pow_add]
      congr 1
      omega
    rw [units_eq, ← heven, ← Nat.mul_assoc] at hunits
    have hodd := Nat.eq_of_mul_eq_mul_right (Nat.two_pow_pos _) hunits
    have htwice : a.significand * (2 ^ (a.shift - 1074) * 2) =
        2 * (a.significand * 2 ^ (a.shift - 1074)) := by ring
    omega
  have hlt : a.units < 2 ^ 53 * 2 ^ 1073 := by
    have hle : a.significand * 2 ^ a.shift ≤ a.significand * 2 ^ 1073 :=
      Nat.mul_le_mul_left _ (Nat.pow_le_pow_right (by decide) hshift)
    rw [units_eq]
    exact hle.trans_lt (Nat.mul_lt_mul_of_pos_right (significand_lt a) (Nat.two_pow_pos _))
  have hbound : (a.units : ℚ) < ((2 ^ 53 * 2 ^ 1073 : Nat) : ℚ) := Nat.cast_lt.mpr hlt
  have hpow : (2 : ℚ) ^ 52 * 2 ^ 1074 = 2 ^ 53 * 2 ^ 1073 := by
    rw [pow_succ' 2 1073, pow_succ 2 52, mul_assoc]
  rwa [Nat.cast_mul, Nat.cast_pow, Nat.cast_pow, Nat.cast_ofNat, ← hpow,
    ← div_lt_iff₀ (by positivity), ← abs_toRat] at hbound

end Quotient

end Double

end RpiDashboard.Numeric
