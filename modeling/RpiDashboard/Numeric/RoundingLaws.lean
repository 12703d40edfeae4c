import Mathlib.Data.Nat.Cast.Order.Field
import RpiDashboard.Numeric.ArithmeticLaws

/-! Laws of rounding: from which value on a number is rounded up to a power of two, and to which
integers a double is converted. -/

namespace RpiDashboard.Numeric

section RoundEven

variable {q : ℚ} {n : Int}

/-- Of two integers the even one is taken, so that the middle below an even one goes up. -/
theorem roundEven_lt_iff (hn : n % 2 = 0) : roundEven q < n ↔ q < n - 1 / 2 := by
  have hfloor : (q.floor : ℚ) ≤ q := Int.floor_le q
  have hlt : q < q.floor + 1 := Int.lt_floor_add_one q
  have hle (h : q.floor + 1 < n) : ((q.floor + 2 : ℤ) : ℚ) ≤ n := Int.cast_le.mpr (by omega)
  have hge (h : n ≤ q.floor) : (n : ℚ) ≤ (q.floor : ℤ) := Int.cast_le.mpr h
  push_cast at hle
  unfold roundEven
  dsimp only
  rcases lt_trichotomy (q.floor + 1) n with hbelow | hat | habove
  · have hsmall := hle hbelow
    refine iff_of_true ?_ (by linarith)
    split <;> omega
  · have hcast : (n : ℚ) = q.floor + 1 := by rw [← hat]; push_cast; rfl
    have hodd : ¬ q.floor % 2 = 0 := by omega
    rw [hcast]
    split
    case isTrue h =>
      refine iff_of_true (by omega) ?_
      have hrest : q - q.floor < 1 / 2 := h.resolve_right fun heven => hodd heven.2
      linarith
    case isFalse h =>
      refine iff_of_false (by omega) ?_
      have hrest : ¬ q - q.floor < 1 / 2 := fun hr => h (Or.inl hr)
      linarith
  · have hlarge := hge (by omega)
    refine iff_of_false ?_ (by linarith)
    split <;> omega

end RoundEven

section RoundAway

variable {q r : ℚ} {n : Int}

theorem roundAway_nonneg (h : 0 ≤ q) : 0 ≤ roundAway q := by
  have hsum : 0 ≤ q + 1 / 2 := by linarith
  rw [roundAway, if_pos h]
  exact Int.floor_nonneg.mpr hsum

theorem roundAway_neg (q : ℚ) : roundAway (-q) = -roundAway q := by
  unfold roundAway
  rcases lt_trichotomy q 0 with hneg | rfl | hpos
  · rw [if_pos (by linarith), if_neg (by linarith), neg_neg]
    congr 1
    ring
  · decide +kernel
  · rw [if_neg (by linarith), if_pos hpos.le]
    congr 2
    ring

theorem roundAway_lt_iff (hn : 0 < n) : roundAway q < n ↔ q < n - 1 / 2 := by
  have hone : (1 : ℚ) ≤ n := by exact_mod_cast hn
  unfold roundAway
  split
  case isTrue =>
    change ⌊q + 1 / 2⌋ < n ↔ _
    rw [Int.floor_lt, lt_sub_iff_add_lt]
  case isFalse hneg =>
    have hnonneg : 0 ≤ ⌊1 / 2 - q⌋ := Int.floor_nonneg.mpr (by linarith)
    change -⌊1 / 2 - q⌋ < n ↔ _
    exact iff_of_true (by omega) (by linarith)

/-- A nearest integer is within a half. -/
theorem abs_sub_roundAway_le (q : ℚ) : |q - roundAway q| ≤ 1 / 2 := by
  unfold roundAway
  rw [abs_le]
  split
  case isTrue =>
    have hle := Int.floor_le (q + 1 / 2)
    have hlt := Int.lt_floor_add_one (q + 1 / 2)
    change -(1 / 2) ≤ q - (⌊q + 1 / 2⌋ : ℤ) ∧ q - (⌊q + 1 / 2⌋ : ℤ) ≤ 1 / 2
    constructor <;> linarith
  case isFalse =>
    have hle := Int.floor_le (1 / 2 - q)
    have hlt := Int.lt_floor_add_one (1 / 2 - q)
    change -(1 / 2) ≤ q - ((-⌊1 / 2 - q⌋ : ℤ) : ℚ) ∧ q - ((-⌊1 / 2 - q⌋ : ℤ) : ℚ) ≤ 1 / 2
    push_cast
    constructor <;> linarith

/-- Numbers between the same middles have the same nearest integer. -/
theorem roundAway_congr (hq : 0 ≤ q) (hr : 0 ≤ r)
    (h : ∀ n : Int, 0 < n → (q < n - 1 / 2 ↔ r < n - 1 / 2)) : roundAway q = roundAway r := by
  have hle {x y : ℚ} (hx : 0 ≤ x) (hxy : ∀ n : Int, 0 < n → x < n - 1 / 2 → y < n - 1 / 2) :
      roundAway y ≤ roundAway x := by
    have hpos : 0 < roundAway x + 1 := by
      have := roundAway_nonneg hx
      omega
    have hbelow : y < (roundAway x + 1 : ℤ) - 1 / 2 :=
      hxy _ hpos ((roundAway_lt_iff hpos).mp (Int.lt_succ _))
    exact Int.le_of_lt_add_one ((roundAway_lt_iff hpos).mpr hbelow)
  exact le_antisymm (hle hr fun n hn => (h n hn).mpr) (hle hq fun n hn => (h n hn).mp)

end RoundAway

namespace Double

variable {a b d : Double} {q : ℚ}

section Nearest

variable {k : Nat}

/-- The doubles below a power of two end a whole step below it. -/
theorem abs_toRat_le_of_pattern_lt (hk : 53 ≤ k) (h : d.pattern < (k + 1023) * 2 ^ 52) :
    |d.toRat| ≤ 2 ^ k - 2 ^ (k - 53) := by
  have hfraction := fraction_lt d
  have hsignificand := significand_lt d
  unfold pattern at h
  have hscale : max d.exponent 1 - 1 ≤ k + 1021 := by omega
  have hunits : d.units ≤ (2 ^ 53 - 1) * 2 ^ (k + 1021) :=
    Nat.mul_le_mul (by omega) (Nat.pow_le_pow_right (by decide) hscale)
  have hcast : ((d.units : Nat) : ℚ) ≤ (((2 ^ 53 - 1) * 2 ^ (k + 1021) : Nat) : ℚ) :=
    Nat.cast_le.mpr hunits
  push_cast at hcast
  have hpow : (2 : ℚ) ^ (k + 1021) = 2 ^ (k - 53) * 2 ^ 1074 := by
    rw [← pow_add]
    congr 1
    omega
  have htop : (2 : ℚ) ^ k = 2 ^ (k - 53) * 2 ^ 53 := by
    rw [← pow_add]
    congr 1
    omega
  rw [abs_toRat, div_le_iff₀ (by positivity), htop]
  rw [hpow, ← mul_assoc] at hcast
  refine hcast.trans_eq (congrArg (· * 2 ^ 1074) ?_)
  ring

theorem le_abs_toRat_of_le_pattern (h : (k + 1023) * 2 ^ 52 ≤ d.pattern) : 2 ^ k ≤ |d.toRat| := by
  have hunits := le_units (by omega) h
  have hle : ((2 ^ (k + 1023 + 51) : Nat) : ℚ) ≤ ((d.units : Nat) : ℚ) := Nat.cast_le.mpr hunits
  have hexponent : k + 1023 + 51 = k + 1074 := by omega
  rw [Nat.cast_pow, Nat.cast_ofNat, hexponent, pow_add] at hle
  rwa [abs_toRat, le_div_iff₀ (by positivity)]

/-- The significand of a number between two powers of two. -/
theorem nearest_eq (hk : 1 ≤ k) (hlow : 2 ^ (k - 1) ≤ q) (hhigh : q < 2 ^ k) :
    nearest q = min ((k + 1021) * 2 ^ 52 + (roundEven (q * 2 ^ 1074 / 2 ^ (k + 1021))).toNat)
      (2047 * 2 ^ 52) := by
  unfold nearest
  dsimp only
  have hq : 0 ≤ q := le_trans (by positivity) hlow
  have hunits : 0 ≤ q * 2 ^ 1074 := by positivity
  have hexponent : (q * 2 ^ 1074).floor.toNat.log2 = k + 1073 := by
    have hle := two_pow_log2_le hunits
    have hlt := lt_two_pow_log2 hunits
    have hlower : (2 : ℚ) ^ (k - 1 + 1074) ≤ q * 2 ^ 1074 := by
      rw [pow_add]
      exact mul_le_mul_of_nonneg_right hlow (by positivity)
    have hupper : q * 2 ^ 1074 < (2 : ℚ) ^ (k + 1074) := by
      rw [pow_add]
      exact mul_lt_mul_of_pos_right hhigh (by positivity)
    generalize (q * 2 ^ 1074).floor.toNat.log2 = exponent at hle hlt ⊢
    have habove : k - 1 + 1074 < exponent + 1 :=
      (pow_lt_pow_iff_right₀ (by norm_num)).mp (hlower.trans_lt hlt)
    have hbelow : exponent < k + 1074 :=
      (pow_lt_pow_iff_right₀ (by norm_num)).mp ((hle (by omega)).trans_lt hupper)
    omega
  have hshift : k + 1073 - 52 = k + 1021 := by omega
  rw [hexponent, hshift]

/-- Which numbers stay below a power of two: those below the middle of the last step. -/
theorem nearest_lt_iff (hk : 54 ≤ k) (hmax : k ≤ 1024) (hq : 0 ≤ q) :
    nearest q < (k + 1023) * 2 ^ 52 ↔ q < 2 ^ k - 2 ^ (k - 54) := by
  have hstep : (2 : ℚ) ^ k = 2 ^ (k - 54) * 2 ^ 54 := by
    rw [← pow_add]
    congr 1
    omega
  have hpos : (0 : ℚ) < 2 ^ (k - 54) := by positivity
  rcases lt_or_ge q (2 ^ (k - 1)) with hlow | hlow
  · -- One power of two further down there is nothing to round up.
    have hhalf : (2 : ℚ) ^ (k - 1) = 2 ^ (k - 54) * 2 ^ 53 := by
      rw [← pow_add]
      congr 1
      omega
    refine iff_of_true ?_ (by rw [hhalf] at hlow; linarith)
    have hle := nearest_le_of_le_pow hq hlow.le
    omega
  · rcases lt_or_ge q (2 ^ k) with hhigh | hhigh
    · rw [nearest_eq (by omega) hlow hhigh, min_lt_iff, or_iff_left (by omega)]
      have hquotient : q * 2 ^ 1074 / 2 ^ (k + 1021) = q / 2 ^ (k - 53) := by
        have hpow : (2 : ℚ) ^ (k + 1021) = 2 ^ (k - 53) * 2 ^ 1074 := by
          rw [← pow_add]
          congr 1
          omega
        rw [hpow]
        exact mul_div_mul_right _ _ (by positivity)
      have heven : roundEven (q / 2 ^ (k - 53)) < ((2 ^ 53 : Nat) : ℤ) ↔
          q / 2 ^ (k - 53) < ((2 ^ 53 : Nat) : ℤ) - 1 / 2 := roundEven_lt_iff (by decide)
      have hdouble : (2 : ℚ) ^ (k - 53) = 2 * 2 ^ (k - 54) := by
        rw [← pow_succ']
        congr 1
        omega
      rw [div_lt_iff₀ (by positivity), hdouble] at heven
      rw [hquotient, hdouble]
      push_cast at heven
      constructor
      · intro h
        have := heven.mp (by omega)
        linarith
      · intro h
        have := heven.mpr (by linarith)
        omega
    · refine iff_of_false (Nat.not_lt.mpr ?_) (by linarith)
      refine le_nearest ?_ (by omega) (by omega)
      have hexponent : k + 1023 + 51 = k + 1074 := by omega
      rw [hexponent, pow_add]
      exact mul_le_mul_of_nonneg_right hhigh (by positivity)

end Nearest

/-- A quotient of integers of which the first is not the greater one; each may be rounded. -/
theorem abs_toRat_div_ofInt_le {n m : Nat} (hm : m ≠ 0) (hle : n ≤ m) (hmax : m < 2 ^ 64) :
    |(div (ofInt n) (ofInt m)).toRat| ≤ 2 := by
  have hlog : m.log2 < 64 := log2_lt hm hmax
  have hnumerator : |(ofInt n).toRat| ≤ 2 ^ (m.log2 + 1) :=
    abs_toRat_ofInt_le (by omega) (hle.trans_lt Nat.lt_log2_self)
  have hdenominator : 2 ^ m.log2 ≤ |(ofInt m).toRat| := by
    refine le_abs_toRat_of_le_pattern ?_
    rw [ofInt_pattern (k := 64) (by decide) (by simpa using hmax)]
    exact (magnitude_bounds hm).1
  have hpos : (0 : ℚ) < 2 ^ m.log2 := by positivity
  have hquotient : |(ofInt n).toRat / (ofInt m).toRat| ≤ 2 ^ 1 := by
    rw [abs_div, div_le_iff₀ (hpos.trans_le hdenominator), pow_one]
    calc |(ofInt n).toRat| ≤ 2 * 2 ^ m.log2 := by rwa [← pow_succ']
      _ ≤ 2 * |(ofInt m).toRat| := mul_le_mul_of_nonneg_left hdenominator (by norm_num)
  have hvalue : |(div (ofInt n) (ofInt m)).toRat| ≤ 2 ^ 1 := by
    refine abs_toRat_le ?_
    rw [div_pattern]
    exact nearest_le_of_le_pow (abs_nonneg _) hquotient
  simpa using hvalue

section Conversion

variable {n : Int}

theorem round_eq (d : Double) : d.round = roundAway d.toRat := rfl

theorem round_lt_iff (hn : 0 < n) : d.round < n ↔ d.toRat < n - 1 / 2 := roundAway_lt_iff hn

theorem le_round_iff (hn : n ≤ 0) : n ≤ d.round ↔ n - 1 / 2 < d.toRat := by
  have hzero : (n : ℚ) ≤ 0 := by exact_mod_cast hn
  unfold round
  dsimp only
  split
  case isTrue hpos =>
    have hnonneg : 0 ≤ ⌊d.toRat + 1 / 2⌋ := Int.floor_nonneg.mpr (by linarith)
    change n ≤ ⌊d.toRat + 1 / 2⌋ ↔ _
    exact iff_of_true (by omega) (by linarith)
  case isFalse hneg =>
    have hle : n ≤ -⌊1 / 2 - d.toRat⌋ ↔ ⌊1 / 2 - d.toRat⌋ < -n + 1 := by omega
    change n ≤ -⌊1 / 2 - d.toRat⌋ ↔ _
    rw [hle, Int.floor_lt]
    push_cast
    constructor <;> intro h <;> linarith

theorem abs_truncate_le (d : Double) : |(d.truncate : ℚ)| ≤ |d.toRat| := by
  have habs : |(d.truncate : ℚ)| = ((d.toRat.num.natAbs / d.toRat.den : Nat) : ℚ) := by
    rw [← Int.cast_abs, Int.abs_eq_natAbs, truncate, Int.natAbs_tdiv]
    rfl
  have hvalue : |d.toRat| = (d.toRat.num.natAbs : ℚ) / (d.toRat.den : ℚ) := by
    conv_lhs => rw [← Rat.num_div_den d.toRat]
    rw [abs_div, Nat.abs_cast, ← Int.cast_abs, Int.abs_eq_natAbs]
    rfl
  rw [habs, hvalue]
  exact Nat.cast_div_le

theorem mul_pattern : (mul a b).pattern = nearest |a.toRat * b.toRat| := ofSign_pattern (nearest_lt _)

theorem abs_toRat_mul_le {k : Nat} (h : |a.toRat * b.toRat| ≤ 2 ^ k) : |(mul a b).toRat| ≤ 2 ^ k := by
  refine abs_toRat_le ?_
  rw [mul_pattern]
  exact nearest_le_of_le_pow (abs_nonneg _) h

theorem toRat_mul_nonneg (ha : 0 ≤ a.toRat) (hb : b.negative = false) : 0 ≤ (mul a b).toRat := by
  rcases ha.lt_or_eq with hpos | hzero
  · -- A positive number has no sign.
    have hsign : a.negative = false := by
      by_contra h
      exact absurd (toRat_nonpos (Bool.not_eq_false _ ▸ h)) (not_le.mpr hpos)
    refine toRat_nonneg ?_
    rw [mul, ofSign_negative (nearest_lt _), hsign, hb]
    rfl
  · have hpattern : (mul a b).pattern = 0 := by
      rw [mul_pattern, ← hzero, zero_mul, abs_zero]
      decide +kernel
    have hvalue : (mul a b).units = 0 := by
      unfold pattern at hpattern
      have hexponent : (mul a b).exponent = 0 := by omega
      have hfraction : (mul a b).fraction = 0 := by omega
      rw [units, significand, if_pos hexponent, hfraction, Nat.zero_mul]
    rw [toRat_eq, hvalue]
    simp

/-- A product is converted to an integer of `k + 1` bits just if it is below the middle of the last
step. -/
theorem round_mul_lt_iff {k : Nat} (hk : 54 ≤ k) (hmax : k ≤ 1024) (ha : 0 ≤ a.toRat)
    (hb : b.negative = false) :
    (mul a b).round < 2 ^ k ↔ a.toRat * b.toRat < 2 ^ k - 2 ^ (k - 54) := by
  have hproduct : 0 ≤ a.toRat * b.toRat := mul_nonneg ha (toRat_nonneg hb)
  have hnonneg := toRat_mul_nonneg ha hb
  rw [round_lt_iff (by positivity), ← nearest_lt_iff hk hmax hproduct, ← abs_of_nonneg hproduct,
    ← mul_pattern, ← abs_of_nonneg hnonneg]
  push_cast
  constructor
  · intro h
    by_contra hn
    have := le_abs_toRat_of_le_pattern (Nat.not_lt.mp hn)
    linarith
  · intro h
    have hstep : (1 : ℚ) ≤ 2 ^ (k - 53) := one_le_pow₀ (by norm_num)
    have := abs_toRat_le_of_pattern_lt (by omega) h
    linarith

end Conversion

end Double

end RpiDashboard.Numeric
