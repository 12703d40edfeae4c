import Mathlib.Algebra.Order.Floor.Ring
import Mathlib.Data.Nat.Log
import Mathlib.Data.Rat.Floor
import Mathlib.Tactic.Linarith
import Mathlib.Tactic.Positivity
import Mathlib.Tactic.Ring
import RpiDashboard.Numeric.Arithmetic

/-! Laws of the arithmetic of doubles: between which powers of two a result lies. -/

namespace RpiDashboard.Numeric

section RoundEven

variable {q : ℚ} {n : Int}

theorem roundEven_le (h : q ≤ n) : roundEven q ≤ n := by
  have hfloor : q.floor ≤ n := Int.cast_le.mp ((Int.floor_le q).trans h)
  unfold roundEven
  dsimp only
  split
  case isTrue => exact hfloor
  case isFalse hrest =>
    -- A rest of at least a half is a rest.
    have hne : q.floor ≠ n := fun heq => hrest <| Or.inl <| by
      rw [heq]
      linarith
    omega

theorem le_roundEven (h : (n : ℚ) ≤ q) : n ≤ roundEven q := by
  have hfloor : n ≤ q.floor := Int.le_floor.mpr h
  unfold roundEven
  dsimp only
  split
  case isTrue => exact hfloor
  case isFalse => exact hfloor.trans (Int.le_add_one le_rfl)

end RoundEven

namespace Double

variable {d : Double} {j : Nat}

/-- The pattern without its sign. -/
def pattern (d : Double) : Nat := d.exponent * 2 ^ 52 + d.fraction

/-- The magnitude in multiples of the least double. -/
def units (d : Double) : Nat := d.significand * 2 ^ (max d.exponent 1 - 1)

theorem fraction_lt (d : Double) : d.fraction < 2 ^ 52 := Nat.mod_lt _ (by decide)

theorem toRat_eq (d : Double) :
    d.toRat = (if d.negative then -1 else 1) * ((d.units : ℚ) / 2 ^ 1074) := by
  unfold toRat units
  dsimp only
  generalize hs : max d.exponent 1 = scale
  have hpos : 1 ≤ scale := hs ▸ le_max_right _ _
  split
  case isTrue h =>
    have hpow : (2 : ℚ) ^ (scale - 1) = 2 ^ (scale - 1075) * 2 ^ 1074 := by
      rw [← pow_add]
      congr 1
      omega
    cases d.negative with
    | false =>
      push_cast [hpow]
      field_simp
    | true =>
      push_cast [hpow]
      field_simp
      simp
  case isFalse h =>
    have hpow : (2 : ℚ) ^ 1074 = 2 ^ (scale - 1) * 2 ^ (1075 - scale) := by
      rw [← pow_add]
      congr 1
      omega
    rw [Rat.mkRat_eq_div]
    cases d.negative with
    | false =>
      push_cast [hpow]
      field_simp
    | true =>
      push_cast [hpow]
      field_simp
      simp

theorem isFinite_iff : d.isFinite ↔ d.pattern < 2047 * 2 ^ 52 := by
  have := fraction_lt d
  unfold isFinite pattern
  rw [decide_eq_true_eq]
  omega

theorem significand_lt (d : Double) : d.significand < 2 ^ 53 := by
  have := fraction_lt d
  unfold significand
  split <;> omega

theorem units_le (hj : 1 ≤ j) (h : d.pattern ≤ j * 2 ^ 52) : d.units ≤ 2 ^ (j + 51) := by
  have hfraction := fraction_lt d
  have hsignificand := significand_lt d
  unfold pattern at h
  rcases Nat.lt_or_ge d.exponent j with hlt | hge
  · rcases Nat.eq_zero_or_pos d.exponent with hzero | hpos
    · rw [units, significand, if_pos hzero, hzero]
      exact (Nat.mul_one _).trans_le (hfraction.le.trans (Nat.pow_le_pow_right (by decide) (by omega)))
    · calc d.units ≤ 2 ^ 53 * 2 ^ (max d.exponent 1 - 1) :=
            Nat.mul_le_mul_right _ hsignificand.le
        _ = 2 ^ (53 + (max d.exponent 1 - 1)) := (pow_add 2 _ _).symm
        _ ≤ 2 ^ (j + 51) := Nat.pow_le_pow_right (by decide) (by omega)
  · have hexponent : d.exponent = j := by omega
    have hzero : d.fraction = 0 := by omega
    have hne : j ≠ 0 := by omega
    rw [units, significand, hexponent, if_neg hne, hzero, Nat.max_eq_left hj, Nat.add_zero,
      ← pow_add]
    exact Nat.pow_le_pow_right (by decide) (by omega)

theorem le_units (hj : 1 ≤ j) (h : j * 2 ^ 52 ≤ d.pattern) : 2 ^ (j + 51) ≤ d.units := by
  have hfraction := fraction_lt d
  unfold pattern at h
  have hexponent : j ≤ d.exponent := by omega
  have hne : d.exponent ≠ 0 := by omega
  calc 2 ^ (j + 51) ≤ 2 ^ (52 + (max d.exponent 1 - 1)) :=
        Nat.pow_le_pow_right (by decide) (by omega)
    _ = 2 ^ 52 * 2 ^ (max d.exponent 1 - 1) := pow_add 2 _ _
    _ ≤ d.units := Nat.mul_le_mul_right _ (by rw [significand, if_neg hne]; omega)

section Nearest

variable {q : ℚ}

theorem round_le {e n : Nat} (h : q ≤ 2 ^ (n + e)) : (roundEven (q / 2 ^ e)).toNat ≤ 2 ^ n := by
  refine Int.toNat_le.mpr (roundEven_le ?_)
  rw [div_le_iff₀ (by positivity)]
  push_cast
  rwa [← pow_add]

theorem le_round {e n : Nat} (h : 2 ^ (n + e) ≤ q) : 2 ^ n ≤ (roundEven (q / 2 ^ e)).toNat := by
  refine Int.ofNat_le.mp ((le_roundEven ?_).trans (Int.self_le_toNat _))
  rw [le_div_iff₀ (by positivity)]
  push_cast
  rwa [← pow_add]

/-- The exponent of a number of units. -/
theorem lt_two_pow_log2 (hq : 0 ≤ q) : q < 2 ^ (q.floor.toNat.log2 + 1) := by
  have hfloor : (q.floor.toNat : ℤ) = q.floor := Int.toNat_of_nonneg (Int.floor_nonneg.mpr hq)
  have hlt : q.floor + 1 ≤ ((2 ^ (q.floor.toNat.log2 + 1) : Nat) : ℤ) := by
    rw [← hfloor]
    exact Int.ofNat_le.mpr Nat.lt_log2_self
  calc q < ((q.floor + 1 : ℤ) : ℚ) := by
        push_cast
        exact Int.lt_floor_add_one q
    _ ≤ (((2 ^ (q.floor.toNat.log2 + 1) : Nat) : ℤ) : ℚ) := Int.cast_le.mpr hlt
    _ = 2 ^ (q.floor.toNat.log2 + 1) := by push_cast; rfl

theorem two_pow_log2_le (hq : 0 ≤ q) (h : q.floor.toNat.log2 ≠ 0) :
    2 ^ q.floor.toNat.log2 ≤ q := by
  have hne : q.floor.toNat ≠ 0 := fun hz => h (by rw [hz]; rfl)
  have hfloor : (q.floor.toNat : ℤ) = q.floor := Int.toNat_of_nonneg (Int.floor_nonneg.mpr hq)
  have hle : ((2 ^ q.floor.toNat.log2 : Nat) : ℤ) ≤ q.floor := by
    rw [← hfloor]
    exact Int.ofNat_le.mpr (Nat.log2_self_le hne)
  calc (2 : ℚ) ^ q.floor.toNat.log2 = (((2 ^ q.floor.toNat.log2 : Nat) : ℤ) : ℚ) := by
        push_cast
        rfl
    _ ≤ (q.floor : ℚ) := Int.cast_le.mpr hle
    _ ≤ q := Int.floor_le q

theorem nearest_le (h : q * 2 ^ 1074 ≤ 2 ^ (j + 51)) (hq : 0 ≤ q) (hj : 1 ≤ j) :
    nearest q ≤ j * 2 ^ 52 := by
  unfold nearest
  dsimp only
  have hunits : 0 ≤ q * 2 ^ 1074 := by positivity
  generalize q * 2 ^ 1074 = units at h hunits ⊢
  have hlt := lt_two_pow_log2 hunits
  have hle := two_pow_log2_le hunits
  generalize units.floor.toNat.log2 = exponent at hlt hle ⊢
  refine (min_le_left _ _).trans ?_
  rcases Nat.lt_or_ge exponent (j + 51) with hsmall | hlarge
  · -- The rounded significand may be the power of two above it, one exponent further on.
    rcases Nat.lt_or_ge exponent 52 with hsub | hnormal
    · have hround : (roundEven (units / 2 ^ (exponent - 52))).toNat ≤ 2 ^ 52 :=
        round_le (hlt.le.trans (pow_le_pow_right₀ (by norm_num) (by omega)))
      omega
    · have hround : (roundEven (units / 2 ^ (exponent - 52))).toNat ≤ 2 ^ 53 :=
        round_le (hlt.le.trans (pow_le_pow_right₀ (by norm_num) (by omega)))
      omega
  · have hexponent : exponent ≤ j + 51 :=
      (pow_le_pow_iff_right₀ (by norm_num)).mp ((hle (by omega)).trans h)
    have hround : (roundEven (units / 2 ^ (exponent - 52))).toNat ≤ 2 ^ 52 :=
      round_le (h.trans (pow_le_pow_right₀ (by norm_num) (by omega)))
    omega

theorem le_nearest (h : 2 ^ (j + 51) ≤ q * 2 ^ 1074) (hj : 1 ≤ j) (hmax : j ≤ 2047) :
    j * 2 ^ 52 ≤ nearest q := by
  unfold nearest
  dsimp only
  have hunits : 0 ≤ q * 2 ^ 1074 := le_trans (by positivity) h
  generalize q * 2 ^ 1074 = units at h hunits ⊢
  have hlt := lt_two_pow_log2 hunits
  have hle := two_pow_log2_le hunits
  generalize units.floor.toNat.log2 = exponent at hlt hle ⊢
  have hexponent : j + 51 < exponent + 1 :=
    (pow_lt_pow_iff_right₀ (by norm_num)).mp (h.trans_lt hlt)
  have hround : 2 ^ 52 ≤ (roundEven (units / 2 ^ (exponent - 52))).toNat :=
    le_round ((pow_le_pow_right₀ (by norm_num) (by omega)).trans (hle (by omega)))
  refine le_min ?_ (Nat.mul_le_mul_right _ hmax)
  omega

theorem nearest_le_infinity (q : ℚ) : nearest q ≤ 2047 * 2 ^ 52 := min_le_right _ _

theorem nearest_le_of_le_pow {k : Nat} (hq : 0 ≤ q) (h : q ≤ 2 ^ k) :
    nearest q ≤ (k + 1023) * 2 ^ 52 := by
  refine nearest_le ?_ hq (by omega)
  have hexponent : k + 1023 + 51 = k + 1074 := by omega
  rw [hexponent, pow_add]
  exact mul_le_mul_of_nonneg_right h (by positivity)

theorem le_nearest_of_pow_le {k : Nat} (hk : k ≤ 1022) (h : 1 ≤ q * 2 ^ k) :
    (1023 - k) * 2 ^ 52 ≤ nearest q := by
  refine le_nearest ?_ (by omega) (by omega)
  have hexponent : 1074 = k + (1023 - k + 51) := by omega
  have hpow : q * 2 ^ 1074 = q * 2 ^ k * 2 ^ (1023 - k + 51) := by
    rw [hexponent, pow_add, mul_assoc]
  rw [hpow]
  exact le_mul_of_one_le_left (by positivity) h

end Nearest

section Sign

variable {negative : Bool} {p : Nat}

theorem ofSign_toNat (h : p < 2 ^ 63) :
    (ofSign negative p).bits.toNat = (if negative then 2 ^ 63 else 0) + p := by
  rw [ofSign, BitVec.toNat_ofNat, Nat.mod_eq_of_lt]
  split <;> omega

theorem ofSign_pattern (h : p < 2 ^ 63) : (ofSign negative p).pattern = p := by
  rw [pattern, exponent, fraction, ofSign_toNat h]
  split <;> omega

theorem ofSign_negative (h : p < 2 ^ 63) : (ofSign negative p).negative = negative := by
  rw [Double.negative, BitVec.msb_eq_decide, ofSign_toNat h]
  cases negative with
  | false => simpa using h
  | true => simp

theorem toRat_of_not_negative (h : d.negative = false) : d.toRat = d.units / 2 ^ 1074 := by
  rw [toRat_eq, h]
  simp

theorem toRat_nonneg (h : d.negative = false) : 0 ≤ d.toRat := by
  rw [toRat_of_not_negative h]
  positivity

theorem toRat_nonpos (h : d.negative = true) : d.toRat ≤ 0 := by
  rw [toRat_eq, h]
  simp only [if_true, neg_mul, one_mul, Left.neg_nonpos_iff]
  positivity

theorem abs_toRat (d : Double) : |d.toRat| = d.units / 2 ^ 1074 := by
  rw [toRat_eq, abs_mul]
  have hpos : (0 : ℚ) ≤ d.units / 2 ^ 1074 := by positivity
  rw [abs_of_nonneg hpos]
  split <;> simp

/-- The value of a double by its pattern: at most a power of two. -/
theorem abs_toRat_le {k : Nat} (h : d.pattern ≤ (k + 1023) * 2 ^ 52) : |d.toRat| ≤ 2 ^ k := by
  have hunits := units_le (by omega) h
  have hexponent : k + 1023 + 51 = k + 1074 := by omega
  rw [abs_toRat, div_le_iff₀ (by positivity), ← pow_add, ← hexponent]
  have hle : ((d.units : Nat) : ℚ) ≤ ((2 ^ (k + 1023 + 51) : Nat) : ℚ) := Nat.cast_le.mpr hunits
  rwa [Nat.cast_pow, Nat.cast_ofNat] at hle

/-- And at least one. -/
theorem le_abs_toRat {k : Nat} (hk : k ≤ 1022) (h : (1023 - k) * 2 ^ 52 ≤ d.pattern) :
    1 ≤ |d.toRat| * 2 ^ k := by
  have hunits := le_units (by omega) h
  have hle : ((2 ^ (1023 - k + 51) : Nat) : ℚ) ≤ ((d.units : Nat) : ℚ) := Nat.cast_le.mpr hunits
  rw [Nat.cast_pow, Nat.cast_ofNat] at hle
  have hexponent : 1074 = 1023 - k + 51 + k := by omega
  rw [abs_toRat, div_mul_eq_mul_div, le_div_iff₀ (by positivity), one_mul, hexponent, pow_add]
  exact mul_le_mul_of_nonneg_right hle (by positivity)

theorem abs_toRat_le_of_isFinite (h : d.isFinite) : |d.toRat| ≤ 2 ^ 1024 :=
  abs_toRat_le (isFinite_iff.mp h).le

end Sign

section Integer

variable {n : Nat}

theorem roundShift_bounds {n shift k : Nat} (hlo : 2 ^ (k + shift) ≤ n)
    (hhi : n < 2 ^ (k + 1 + shift)) :
    2 ^ k ≤ roundShift n shift ∧ roundShift n shift ≤ 2 ^ (k + 1) := by
  have hlow : 2 ^ k ≤ n / 2 ^ shift := by
    rw [Nat.le_div_iff_mul_le (by positivity), ← pow_add]
    exact hlo
  have hhigh : n / 2 ^ shift < 2 ^ (k + 1) := by
    rw [Nat.div_lt_iff_lt_mul (by positivity), ← pow_add]
    exact hhi
  unfold roundShift
  dsimp only
  split <;> omega

/-- The pattern of an integer by its length in bits. -/
theorem magnitude_bounds (hn : n ≠ 0) :
    (n.log2 + 1023) * 2 ^ 52 ≤ magnitude n ∧ magnitude n ≤ (n.log2 + 1024) * 2 ^ 52 := by
  have hlo := Nat.log2_self_le hn
  have hhi := Nat.lt_log2_self (n := n)
  rw [magnitude, if_neg hn]
  dsimp only
  split
  case isTrue h =>
    have hlow : 2 ^ 52 ≤ n * 2 ^ (52 - n.log2) := by
      calc 2 ^ 52 = 2 ^ n.log2 * 2 ^ (52 - n.log2) := by rw [← pow_add]; congr 1; omega
        _ ≤ n * 2 ^ (52 - n.log2) := Nat.mul_le_mul_right _ hlo
    have hhigh : n * 2 ^ (52 - n.log2) ≤ 2 ^ 53 := by
      calc n * 2 ^ (52 - n.log2) ≤ 2 ^ (n.log2 + 1) * 2 ^ (52 - n.log2) :=
            Nat.mul_le_mul_right _ hhi.le
        _ = 2 ^ 53 := by rw [← pow_add]; congr 1; omega
    omega
  case isFalse h =>
    have hsum : 52 + (n.log2 - 52) = n.log2 := by omega
    have hnext : 52 + 1 + (n.log2 - 52) = n.log2 + 1 := by omega
    obtain ⟨hlow, hhigh⟩ := roundShift_bounds (hsum.symm ▸ hlo) (hnext.symm ▸ hhi)
    omega

theorem ofInt_eq (i : Int) : ofInt i = ofSign (i < 0) (magnitude i.natAbs) := by
  simp [ofInt, ofSign]

theorem log2_lt (hn : n ≠ 0) {k : Nat} (h : n < 2 ^ k) : n.log2 < k := (Nat.log2_lt hn).mpr h

theorem magnitude_lt {k : Nat} (h : n < 2 ^ k) : magnitude n ≤ (k + 1023) * 2 ^ 52 := by
  by_cases hn : n = 0
  case pos => simp [hn, magnitude]
  case neg =>
    have hlog : n.log2 + 1024 ≤ k + 1023 := by
      have := log2_lt hn h
      omega
    exact (magnitude_bounds hn).2.trans (Nat.mul_le_mul_right _ hlog)

section Bounded

variable {i : Int} {k : Nat}

theorem ofInt_negative (hk : k ≤ 1000) (h : i.natAbs < 2 ^ k) :
    (ofInt i).negative = (i < 0 : Bool) := by
  have hmagnitude := magnitude_lt h
  rw [ofInt_eq, ofSign_negative (by omega)]

theorem ofInt_pattern (hk : k ≤ 1000) (h : i.natAbs < 2 ^ k) :
    (ofInt i).pattern = magnitude i.natAbs := by
  have hmagnitude := magnitude_lt h
  rw [ofInt_eq, ofSign_pattern (by omega)]

theorem abs_toRat_ofInt_le (hk : k ≤ 1000) (h : i.natAbs < 2 ^ k) :
    |(ofInt i).toRat| ≤ 2 ^ k := by
  refine abs_toRat_le ?_
  rw [ofInt_pattern hk h]
  exact magnitude_lt h

theorem one_le_abs_toRat_ofInt (hk : k ≤ 1000) (h : i.natAbs < 2 ^ k) (hi : i ≠ 0) :
    1 ≤ |(ofInt i).toRat| := by
  have hle : 1 ≤ |(ofInt i).toRat| * 2 ^ 0 := by
    refine le_abs_toRat (by decide) ?_
    rw [ofInt_pattern hk h]
    exact (Nat.mul_le_mul_right _ (Nat.le_add_left 1023 _)).trans
      (magnitude_bounds (Int.natAbs_ne_zero.mpr hi)).1
  simpa using hle

end Bounded

/-- Integers of up to 53 bits are doubles. -/
theorem toRat_ofInt (h : n < 2 ^ 53) : (ofInt n).toRat = n := by
  by_cases hn : n = 0
  case pos =>
    rw [hn]
    decide +kernel
  case neg =>
    have hlog := log2_lt hn h
    have hlow : 2 ^ 52 ≤ n * 2 ^ (52 - n.log2) := by
      calc 2 ^ 52 = 2 ^ n.log2 * 2 ^ (52 - n.log2) := by rw [← pow_add]; congr 1; omega
        _ ≤ n * 2 ^ (52 - n.log2) := Nat.mul_le_mul_right _ (Nat.log2_self_le hn)
    have hhigh : n * 2 ^ (52 - n.log2) < 2 ^ 53 := by
      calc n * 2 ^ (52 - n.log2) < 2 ^ (n.log2 + 1) * 2 ^ (52 - n.log2) :=
            Nat.mul_lt_mul_of_pos_right Nat.lt_log2_self (by positivity)
        _ = 2 ^ 53 := by rw [← pow_add]; congr 1; omega
    have hpattern : (ofInt n).pattern = (n.log2 + 1022) * 2 ^ 52 + n * 2 ^ (52 - n.log2) := by
      rw [ofInt_pattern (i := n) (k := 53) (by decide) h, Int.natAbs_natCast, magnitude, if_neg hn]
      dsimp only
      rw [if_pos (by omega)]
    have hfraction := fraction_lt (ofInt n)
    unfold pattern at hpattern
    have hexponent : (ofInt n).exponent = n.log2 + 1023 := by omega
    have hsignificand : (ofInt n).significand = n * 2 ^ (52 - n.log2) := by
      rw [significand, if_neg (by omega)]
      omega
    have hunits : (ofInt n).units = n * 2 ^ 1074 := by
      have hpow : 52 - n.log2 + (max (n.log2 + 1023) 1 - 1) = 1074 := by omega
      rw [units, hsignificand, hexponent, Nat.mul_assoc, ← pow_add, hpow]
    have hsign : (ofInt n).negative = false := by
      rw [ofInt_negative (i := n) (k := 53) (by decide) h]
      simp
    rw [toRat_of_not_negative hsign, hunits, Nat.cast_mul, Nat.cast_pow, Nat.cast_ofNat]
    exact mul_div_cancel_right₀ _ (by positivity)

end Integer

section Operations

variable {a b : Double} {q : ℚ} {k l : Nat}

theorem nearest_lt (q : ℚ) : nearest q < 2 ^ 63 := (nearest_le_infinity q).trans_lt (by decide)

theorem div_pattern : (div a b).pattern = nearest |a.toRat / b.toRat| := ofSign_pattern (nearest_lt _)

theorem div_negative : (div a b).negative = (a.negative != b.negative) :=
  ofSign_negative (nearest_lt _)

theorem ofRat_pattern : (ofRat q).pattern = nearest |q| := ofSign_pattern (nearest_lt _)

theorem isFinite_of_le (hk : k < 1024) (h : d.pattern ≤ (k + 1023) * 2 ^ 52) : d.isFinite := by
  rw [isFinite_iff]
  omega

theorem sub_isFinite (hk : k < 1024) (h : |a.toRat - b.toRat| ≤ 2 ^ k) : (sub a b).isFinite := by
  refine isFinite_of_le hk ?_
  rw [sub, ofRat_pattern]
  exact nearest_le_of_le_pow (abs_nonneg _) h

theorem abs_div_le (ha : |a.toRat| ≤ 2 ^ k) (hb : 1 ≤ |b.toRat| * 2 ^ l) :
    |a.toRat / b.toRat| ≤ 2 ^ (k + l) := by
  have hpos : 0 < |b.toRat| := by
    by_contra hnot
    have hzero : |b.toRat| = 0 := le_antisymm (not_lt.mp hnot) (abs_nonneg _)
    rw [hzero, zero_mul] at hb
    exact absurd hb (by norm_num)
  rw [abs_div, div_le_iff₀ hpos, pow_add, mul_assoc, mul_comm (2 ^ l)]
  exact ha.trans (le_mul_of_one_le_right (by positivity) hb)

theorem div_isFinite (ha : |a.toRat| ≤ 2 ^ k) (hb : 1 ≤ |b.toRat| * 2 ^ l) (h : k + l < 1024) :
    (div a b).isFinite := by
  refine isFinite_of_le h ?_
  rw [div_pattern]
  exact nearest_le_of_le_pow (abs_nonneg _) (abs_div_le ha hb)

/-- Division by two or more keeps within the range. -/
theorem div_isFinite_of_two_le (ha : a.isFinite = true) (hb : 2 ≤ |b.toRat|) :
    (div a b).isFinite = true := by
  refine isFinite_of_le (k := 1023) (by decide) ?_
  rw [div_pattern]
  refine nearest_le_of_le_pow (abs_nonneg _) ?_
  rw [abs_div, div_le_iff₀ (by linarith)]
  calc |a.toRat| ≤ 2 ^ 1023 * 2 := by
        rw [← pow_succ]
        exact abs_toRat_le_of_isFinite ha
    _ ≤ 2 ^ 1023 * |b.toRat| := mul_le_mul_of_nonneg_left hb (by positivity)

theorem abs_toRat_div_le (ha : |a.toRat| ≤ 2 ^ k) (hb : 1 ≤ |b.toRat| * 2 ^ l) :
    |(div a b).toRat| ≤ 2 ^ (k + l) := by
  refine abs_toRat_le ?_
  rw [div_pattern]
  exact nearest_le_of_le_pow (abs_nonneg _) (abs_div_le ha hb)

theorem le_abs_toRat_div (hk : k ≤ 1022) (h : 1 ≤ |a.toRat / b.toRat| * 2 ^ k) :
    1 ≤ |(div a b).toRat| * 2 ^ k := by
  refine le_abs_toRat hk ?_
  rw [div_pattern]
  exact le_nearest_of_pow_le hk h

/-- A finite number from zero to one. -/
def IsRatio (d : Double) : Prop := d.isFinite = true ∧ 0 ≤ d.toRat ∧ d.toRat ≤ 1
  deriving Decidable

theorem isRatio_zero : IsRatio zero := by decide +kernel
theorem isRatio_one : IsRatio one := by decide +kernel

theorem isRatio_clamp (h : d.isFinite) : IsRatio (clamp d zero one) := by
  unfold clamp lt
  simp only [toRat_zero, toRat_one, decide_eq_true_eq]
  split
  case isTrue => exact isRatio_zero
  case isFalse hlow =>
    split
    case isTrue => exact isRatio_one
    case isFalse hhigh => exact ⟨h, not_lt.mp hlow, not_lt.mp hhigh⟩

theorem isRatio_div (ha : a.negative = false) (hb : b.negative = false) (h : a.toRat ≤ b.toRat) :
    IsRatio (div a b) := by
  have hquotient : |a.toRat / b.toRat| ≤ 2 ^ 0 := by
    rw [abs_of_nonneg (div_nonneg (toRat_nonneg ha) (toRat_nonneg hb)), pow_zero]
    exact div_le_one_of_le₀ h (toRat_nonneg hb)
  have hpattern : (div a b).pattern ≤ (0 + 1023) * 2 ^ 52 := by
    rw [div_pattern]
    exact nearest_le_of_le_pow (abs_nonneg _) hquotient
  have hsign : (div a b).negative = false := by rw [div_negative, ha, hb]; rfl
  have hle := abs_toRat_le hpattern
  rw [abs_of_nonneg (toRat_nonneg hsign), pow_zero] at hle
  exact ⟨isFinite_of_le (by decide) hpattern, toRat_nonneg hsign, hle⟩

end Operations

end Double

end RpiDashboard.Numeric
