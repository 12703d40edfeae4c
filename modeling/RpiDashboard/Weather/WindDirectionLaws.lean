import RpiDashboard.Numeric.NearestLaws
import RpiDashboard.Weather.OneCall

/-! The compass point the wind comes from: when it is the one nearest to the direction in degrees
(`windDirection` in `weather/weather_service.cpp`). -/

namespace RpiDashboard.Weather

open Numeric Qt

def compassPoints : List QString := ["N", "NE", "E", "SE", "S", "SW", "W", "NW"]

/-- The index of the point; a `long` is narrowed to an `int`, the remainder is signed. -/
def windIndex (lround : Double → Int64) (windDegrees : Double) : Int32 :=
  let nearest := (lround (windDegrees.div (.ofInt 45))).toInt32
  (nearest.toInt64 % Int64.ofNat compassPoints.length).toInt32

/-- `windDirection`; none where the index is that of no point. -/
def WeatherService.windDirection (lround : Double → Int64) (service : WeatherService) :
    Option QString :=
  let index := (windIndex lround service.snapshot.current.windDegrees).toInt
  if 0 ≤ index then compassPoints[index.toNat]? else none

/-- `std::lround`: the nearest integer, of two the one farther from zero.  Beyond the range of a
`long` its result is unspecified. -/
def Rounds (lround : Double → Int64) : Prop :=
  ∀ d : Double, -2 ^ 63 ≤ d.round → d.round < 2 ^ 63 → (lround d).toInt = d.round

/-- A compass point, and in some turn no multiple of 45 degrees is nearer. -/
structure PointsTo (index : Int) (degrees : ℚ) : Prop where
  nonneg : 0 ≤ index
  lt : index < 8
  nearest : ∃ turns : Int, ∀ other : Int,
    |degrees - (45 * index + 360 * turns : Int)| ≤ |degrees - (45 * other : Int)|

/-- Which multiple of 45 degrees is nearest. -/
def sector (degrees : ℚ) : Int := roundAway (degrees / 45)

/-- As an `int` it is not negative, or a whole number of turns. -/
def KeepsSign (n : Int) : Prop := 0 ≤ n.bmod (2 ^ 32) ∨ n % 8 = 0

/-- When a direction has a compass point.  Its eighth part of a turn is rounded to a double before
it is rounded to an integer, which makes a difference from `2 ^ 52` degrees on. -/
def Readable (windDegrees : Double) : Prop :=
  if |windDegrees.toRat| < 2 ^ 52 then KeepsSign (sector windDegrees.toRat)
  else
    let n := (Double.ofRat (windDegrees.toRat / 45)).round
    n < 2 ^ 63 ∧ -2 ^ 63 ≤ n ∧ KeepsSign n ∧ n % 8 = sector windDegrees.toRat % 8

section Index

variable {lround : Double → Int64} {d : Double} {n index : Int} {degrees : ℚ}

theorem windIndex_toInt : (windIndex lround d).toInt =
    ((lround (d.div (.ofInt 45))).toInt.bmod (2 ^ 32)).tmod 8 := by
  have hpoints : (Int64.ofNat compassPoints.length).toInt = 8 := rfl
  rw [windIndex, Int64.toInt_toInt32, Int64.toInt_mod, hpoints, Int32.toInt_toInt64,
    Int64.toInt_toInt32]
  generalize ((lround (d.div (.ofInt 45))).toInt.bmod (2 ^ 32)) = m
  have := Int.tmod_lt_of_pos m (by decide : (0 : Int) < 8)
  have := Int.lt_tmod_of_pos m (by decide : (0 : Int) < 8)
  exact Int.bmod_eq_of_le (by omega) (by omega)

theorem KeepsSign.tmod_eq (h : KeepsSign n) : (n.bmod (2 ^ 32)).tmod 8 = n % 8 := by
  have hdvd : ((2 ^ 32 : Nat) : Int) ∣ n.bmod (2 ^ 32) - n := Int.dvd_bmod_sub_self
  unfold KeepsSign at h
  generalize n.bmod (2 ^ 32) = m at *
  rw [Int.tmod_eq_emod]
  split <;> omega

theorem keepsSign_of_nonneg (h : 0 ≤ (n.bmod (2 ^ 32)).tmod 8) : KeepsSign n := by
  have hdvd : ((2 ^ 32 : Nat) : Int) ∣ n.bmod (2 ^ 32) - n := Int.dvd_bmod_sub_self
  unfold KeepsSign
  generalize n.bmod (2 ^ 32) = m at *
  rw [Int.tmod_eq_emod] at h
  split at h <;> omega

theorem distance_eq (degrees : ℚ) (n : Int) :
    |degrees - (45 * n : Int)| = 45 * |degrees / 45 - n| := by
  have hscaled : degrees - (45 * n : Int) = 45 * (degrees / 45 - n) := by
    push_cast
    ring
  rw [hscaled, abs_mul, abs_of_pos (by norm_num : (0 : ℚ) < 45)]

/-- No index is too large; a negative one is that of no point. -/
theorem windDirection_eq_none_iff {service : WeatherService} :
    service.windDirection lround = none ↔
      (windIndex lround service.snapshot.current.windDegrees).toInt < 0 := by
  have hlt : (windIndex lround service.snapshot.current.windDegrees).toInt < 8 := by
    rw [windIndex_toInt]
    exact Int.tmod_lt_of_pos _ (by decide)
  have hlength : compassPoints.length = 8 := rfl
  unfold WeatherService.windDirection
  dsimp only
  rw [ite_eq_right_iff, List.getElem?_eq_none_iff]
  omega

/-- A multiple of 45 degrees is nearest just if it is at most half as far away. -/
theorem nearest_iff :
    (∀ other : Int, |degrees - (45 * n : Int)| ≤ |degrees - (45 * other : Int)|) ↔
      |degrees / 45 - n| ≤ 1 / 2 := by
  simp only [distance_eq]
  constructor
  · intro h
    have hsector := h (sector degrees)
    have hhalf : |degrees / 45 - sector degrees| ≤ 1 / 2 := abs_sub_roundAway_le _
    linarith
  · intro h other
    rcases eq_or_ne n other with rfl | hne
    · exact le_rfl
    · have happart : (1 : ℚ) ≤ |(n : ℚ) - other| := by
        exact_mod_cast Int.one_le_abs (sub_ne_zero.mpr hne)
      have htriangle := abs_sub_le (n : ℚ) (degrees / 45) other
      rw [abs_sub_comm (n : ℚ) (degrees / 45)] at htriangle
      linarith

theorem odd_of_middle (h : degrees / 45 = n + 1 / 2) :
    ∃ m : Nat, |degrees| * 2 = (2 * m + 1 : Nat) := by
  refine ⟨(90 * n + 45).natAbs / 2, ?_⟩
  have hodd : 2 * ((90 * n + 45).natAbs / 2) + 1 = (90 * n + 45).natAbs := by omega
  have htwice : degrees * 2 = (90 * n + 45 : Int) := by
    push_cast
    linarith
  rw [hodd, Nat.cast_natAbs, Int.cast_abs, ← htwice, abs_mul, abs_two]

/-- The integers within a half: the nearest one, or in the middle between two either. -/
theorem eq_sector_of_near (h : |degrees / 45 - n| ≤ 1 / 2) :
    n = sector degrees ∨ ∃ m : Nat, |degrees| * 2 = (2 * m + 1 : Nat) := by
  have hsector : |degrees / 45 - sector degrees| ≤ 1 / 2 := abs_sub_roundAway_le _
  generalize sector degrees = s at hsector ⊢
  rw [abs_le] at h hsector
  rcases lt_trichotomy n s with hlt | heq | hgt
  · have hnext : ((n + 1 : Int) : ℚ) ≤ s := Int.cast_le.mpr hlt
    push_cast at hnext
    have hmiddle : degrees / 45 = n + 1 / 2 := by linarith
    exact Or.inr (odd_of_middle hmiddle)
  · exact Or.inl heq
  · have hnext : ((s + 1 : Int) : ℚ) ≤ n := Int.cast_le.mpr hgt
    push_cast at hnext
    have hmiddle : degrees / 45 = s + 1 / 2 := by linarith
    exact Or.inr (odd_of_middle hmiddle)

theorem round_eq_sector (h : |d.toRat| < 2 ^ 52) :
    (d.div (.ofInt 45)).round = sector d.toRat :=
  Double.round_div_ofInt (c := 45) h (by decide) (by decide)

/-- The remainder points to the direction if the sign is kept, and the rounded quotient is that of
the sector but for whole turns. -/
theorem pointsTo_iff (hn : (d.div (.ofInt 45)).round = n) :
    PointsTo ((n.bmod (2 ^ 32)).tmod 8) d.toRat ↔
      KeepsSign n ∧ n % 8 = sector d.toRat % 8 := by
  constructor
  · rintro ⟨hnonneg, -, turns, hnearest⟩
    have hkeeps := keepsSign_of_nonneg hnonneg
    refine ⟨hkeeps, ?_⟩
    have hheading : 45 * (n % 8) + 360 * turns = 45 * (n % 8 + 8 * turns) := by ring
    rw [hkeeps.tmod_eq, hheading] at hnearest
    rcases eq_sector_of_near (nearest_iff.mp hnearest) with heq | ⟨m, hodd⟩
    · rw [← heq]
      omega
    · -- In the middle between two points the quotient is exact.
      rw [← hn, round_eq_sector (Double.abs_toRat_lt_of_odd hodd)]
  · rintro ⟨hkeeps, hsector⟩
    rw [hkeeps.tmod_eq]
    refine ⟨Int.emod_nonneg _ (by decide), Int.emod_lt_of_pos _ (by decide),
      sector d.toRat / 8, ?_⟩
    have hheading : 45 * (n % 8) + 360 * (sector d.toRat / 8) = 45 * sector d.toRat := by omega
    rw [hheading]
    exact nearest_iff.mpr (abs_sub_roundAway_le _)

theorem sector_bounds (h : |degrees| < 2 ^ 52) :
    sector degrees < 2 ^ 63 ∧ -2 ^ 63 ≤ sector degrees := by
  have hhalf : |degrees / 45 - sector degrees| ≤ 1 / 2 := abs_sub_roundAway_le _
  rw [abs_lt] at h
  rw [abs_le] at hhalf
  have hupper : (sector degrees : ℚ) < (2 ^ 63 : Int) := by
    push_cast
    linarith
  have hlower : ((-2 ^ 63 : Int) : ℚ) ≤ sector degrees := by
    push_cast
    linarith
  exact ⟨Int.cast_lt.mp hupper, Int.cast_le.mp hlower⟩

theorem ofRat_eq_div (h : d.toRat ≠ 0) : Double.ofRat (d.toRat / 45) = d.div (.ofInt 45) := by
  have hdivisor : (Double.ofInt 45).toRat = 45 := Double.toRat_ofInt (n := 45) (by decide)
  have hpositive : (Double.ofInt 45).negative = false := by decide +kernel
  have hsign : decide (d.toRat / 45 < 0) = d.negative := by
    cases hnegative : d.negative with
    | false =>
      have hnonneg := Double.toRat_nonneg hnegative
      exact decide_eq_false (not_lt.mpr (div_nonneg hnonneg (by norm_num)))
    | true =>
      have hneg := lt_of_le_of_ne (Double.toRat_nonpos hnegative) h
      exact decide_eq_true (div_neg_of_neg_of_pos hneg (by norm_num))
  rw [Double.ofRat, Double.div, hdivisor, hpositive, hsign, Bool.bne_false]

/-- The direction is readable if the double that the quotient is rounded to is. -/
theorem readable_iff (hn : (d.div (.ofInt 45)).round = n) :
    Readable d ↔ (-2 ^ 63 ≤ n ∧ n < 2 ^ 63) ∧ KeepsSign n ∧ n % 8 = sector d.toRat % 8 := by
  unfold Readable
  split
  case isTrue h =>
    rw [← hn, round_eq_sector h]
    have hbounds := sector_bounds h
    exact ⟨fun hkeeps => ⟨hbounds.symm, hkeeps, rfl⟩, fun hall => hall.2.1⟩
  case isFalse h =>
    have hne : d.toRat ≠ 0 := fun hzero => h (by rw [hzero]; norm_num)
    rw [ofRat_eq_div hne, hn]
    exact ⟨fun ⟨hlt, hle, hrest⟩ => ⟨⟨hle, hlt⟩, hrest⟩,
      fun ⟨⟨hle, hlt⟩, hrest⟩ => ⟨hlt, hle, hrest⟩⟩

/-- A rounding whose result beyond the range is the last integer before zero. -/
def roundsBackward (d : Double) : Int64 :=
  if -2 ^ 63 ≤ d.round ∧ d.round < 2 ^ 63 then .ofInt d.round else -1

theorem rounds_roundsBackward : Rounds roundsBackward := by
  intro d hle hlt
  rw [roundsBackward, if_pos ⟨hle, hlt⟩, Int64.toInt_ofInt_of_le hle hlt]

end Index

/-- The index is that of the compass point nearest to the direction, whatever `lround` returns out
of range, exactly for the directions that are readable. -/
theorem windIndex_pointsTo_iff (service : WeatherService) :
    (∀ lround, Rounds lround →
      PointsTo (windIndex lround service.snapshot.current.windDegrees).toInt
        service.snapshot.current.windDegrees.toRat) ↔
      Readable service.snapshot.current.windDegrees := by
  generalize service.snapshot.current.windDegrees = d
  have hpoints := pointsTo_iff (d := d) rfl
  rw [readable_iff rfl]
  constructor
  · intro h
    have hbackward := h roundsBackward rounds_roundsBackward
    rw [windIndex_toInt] at hbackward
    by_cases hfits : -2 ^ 63 ≤ (d.div (.ofInt 45)).round ∧ (d.div (.ofInt 45)).round < 2 ^ 63
    case pos =>
      rw [rounds_roundsBackward _ hfits.1 hfits.2] at hbackward
      exact ⟨hfits, hpoints.mp hbackward⟩
    case neg =>
      rw [roundsBackward, if_neg hfits] at hbackward
      exact absurd hbackward.nonneg (by decide)
  · rintro ⟨hfits, hsector⟩ lround hrounds
    rw [windIndex_toInt, hrounds _ hfits.1 hfits.2]
    exact hpoints.mpr hsector

/-- A reply with the wind from the west, written as 90 degrees to the left of north. -/
def westReply : QJsonValue :=
  .object [("current", .object [("dt", .integer 1750000000), ("temp", .integer 20),
    ("feels_like", .integer 20), ("humidity", .integer 50), ("pressure", .integer 1013),
    ("wind_speed", .integer 4), ("wind_deg", .integer (-90))])]

/-- It is taken, and the index is that of no compass point. -/
theorem wind_west_unreadable : ∃ snapshot : Snapshot,
    parseOneCall westReply {} { msecs := some 1750000000000 } = .ok snapshot ∧
      ∀ lround, Rounds lround → (windIndex lround snapshot.current.windDegrees).toInt = -2 := by
  refine ⟨_, rfl, fun lround hrounds => ?_⟩
  have hround : ((Double.ofInt (-90)).div (.ofInt 45)).round = -2 := by decide +kernel
  change (windIndex lround (.ofInt (-90))).toInt = -2
  rw [windIndex_toInt, hrounds _ (by rw [hround]; decide) (by rw [hround]; decide), hround]
  decide

end RpiDashboard.Weather
