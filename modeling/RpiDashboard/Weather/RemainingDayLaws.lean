import Mathlib.Algebra.Order.Ring.Rat
import Mathlib.Data.List.Basic
import Mathlib.Order.OrderDual
import RpiDashboard.Data.Least
import RpiDashboard.Weather.WeatherService

/-! The precipitation of the rest of the day: when it is that of the rows that remain, and when the
timer of the local hour is in time for the next of them. -/

namespace RpiDashboard.Weather

open Numeric Qt

section Rows

/-- Of today on the local clock, and its hour has not elapsed: it contains now or starts later. -/
def isRemaining (snapshot : Snapshot) (now : QDateTime) (row : HourlyForecast) : Bool :=
  row.timestampUtc.isValid &&
    (row.timestampUtc.addSecs snapshot.timezoneOffsetSeconds).date =
      (now.addSecs snapshot.timezoneOffsetSeconds).date &&
    now.lt (row.timestampUtc.addSecs 3600)

def remaining (snapshot : Snapshot) (now : QDateTime) : List HourlyForecast :=
  snapshot.hourly.filter (isRemaining snapshot now)

/-- The greatest of the values, zero if there are none. -/
structure IsMaximum (value : Double) (values : List Double) : Prop where
  empty : values = [] → value = .zero
  attained : values ≠ [] → ∃ v ∈ values, v.toRat = value.toRat
  upper : ∀ v ∈ values, v.toRat ≤ value.toRat

/-- What is shown for the rest of the day is right, and will be when the next row has elapsed. -/
structure ShowsRemaining (service : WeatherService) (now : QDateTime) : Prop where
  value : IsMaximum
    (service.updateTodayPrecipitationProbability now).snapshot.todayPrecipitationProbabilityPercent
    ((remaining service.snapshot now).map HourlyForecast.precipitationProbabilityPercent)
  timer : ∀ row ∈ remaining service.snapshot now, ∃ delay,
    (service.scheduleLocalHourBoundary now).localHourTimer = some delay ∧
      now.toMSecsSinceEpoch + delay ≤ row.timestampUtc.toMSecsSinceEpoch + 3600000 + 1

/-- When the current hour of the local clock started. -/
def localHourStart (snapshot : Snapshot) (now : QDateTime) : Int :=
  now.toMSecsSinceEpoch - (now.addSecs snapshot.timezoneOffsetSeconds).localMSecs % 3600000

/-- No row that remains started before the current local hour, which it may where the offset is no
whole number of hours; and where there are any, a time of fetching and a number from zero. -/
structure InStep (service : WeatherService) (now : QDateTime) : Prop where
  aligned : ∀ row ∈ remaining service.snapshot now,
    localHourStart service.snapshot now ≤ row.timestampUtc.toMSecsSinceEpoch
  fetched : remaining service.snapshot now ≠ [] → service.snapshot.fetchedUtc.isValid
  probable : remaining service.snapshot now ≠ [] → ∃ row ∈ remaining service.snapshot now,
    0 ≤ row.precipitationProbabilityPercent.toRat

/-- A valid time is a whole hour of UTC. -/
def WholeHour (t : QDateTime) : Prop :=
  t.isValid → t.offsetSeconds = 0 ∧ t.toMSecsSinceEpoch % 3600000 = 0

variable {snapshot : Snapshot} {now t : QDateTime} {row : HourlyForecast} {s : Int}

theorem eq_some_of_isValid (h : t.isValid) : t.msecs = some t.toMSecsSinceEpoch := by
  obtain ⟨msecs, hmsecs⟩ := Option.isSome_iff_exists.mp h
  rw [QDateTime.toMSecsSinceEpoch, hmsecs, Option.getD_some]

theorem addSecs_toMSecsSinceEpoch (h : t.isValid) :
    (t.addSecs s).toMSecsSinceEpoch = t.toMSecsSinceEpoch + s * 1000 := by
  rw [QDateTime.addSecs, QDateTime.addMSecs, QDateTime.toMSecsSinceEpoch, eq_some_of_isValid h]
  rfl

theorem addSecs_isValid : (t.addSecs s).isValid = t.isValid := Option.isSome_map

theorem addSecs_localMSecs (h : t.isValid) (hutc : t.offsetSeconds = 0) :
    (t.addSecs s).localMSecs = t.toMSecsSinceEpoch + s * 1000 := by
  have hoffset : (t.addSecs s).offsetSeconds = 0 := hutc
  rw [QDateTime.localMSecs, hoffset, addSecs_toMSecsSinceEpoch h, Int.zero_mul, Int.add_zero]

/-- The rows that are counted. -/
def isCounted (snapshot : Snapshot) (now : QDateTime) (row : HourlyForecast) : Bool :=
  row.timestampUtc.isValid &&
    (row.timestampUtc.addSecs snapshot.timezoneOffsetSeconds).date =
      (now.addSecs snapshot.timezoneOffsetSeconds).date &&
    (now.addSecs snapshot.timezoneOffsetSeconds).hour ≤
      (row.timestampUtc.addSecs snapshot.timezoneOffsetSeconds).hour

/-- On one day, hours are compared by their starts. -/
theorem hour_le_iff {x y : Int} (h : x / 86400000 = y / 86400000) :
    y % 86400000 / 3600000 ≤ x % 86400000 / 3600000 ↔ y - y % 3600000 ≤ x := by
  omega

/-- They are those that remain and started in the current local hour or later. -/
theorem isCounted_iff (hnow : now.isValid ∧ now.offsetSeconds = 0)
    (hrow : WholeHour row.timestampUtc) :
    isCounted snapshot now row ↔ isRemaining snapshot now row ∧
      localHourStart snapshot now ≤ row.timestampUtc.toMSecsSinceEpoch := by
  obtain ⟨hvalid, hutc⟩ := hnow
  by_cases hr : row.timestampUtc.isValid
  case neg => simp [isCounted, isRemaining, hr]
  case pos =>
    have hlocal := addSecs_localMSecs (s := snapshot.timezoneOffsetSeconds) hr (hrow hr).1
    have hlocalNow := addSecs_localMSecs (s := snapshot.timezoneOffsetSeconds) hvalid hutc
    have helapsed : (row.timestampUtc.addSecs 3600).toMSecsSinceEpoch =
        row.timestampUtc.toMSecsSinceEpoch + 3600 * 1000 := addSecs_toMSecsSinceEpoch hr
    simp only [isCounted, isRemaining, localHourStart, QDateTime.date, QDateTime.hour, QDateTime.lt,
      addSecs_isValid, hr, hvalid, hlocal, hlocalNow, helapsed, if_true, Bool.true_and,
      Bool.and_eq_true, decide_eq_true_eq, Option.some_inj, and_assoc]
    refine and_congr_right fun hday => ?_
    rw [hour_le_iff hday]
    omega

theorem todayMaximum_eq (snapshot : Snapshot) (now : QDateTime) :
    WeatherService.todayMaximum snapshot now =
      ((snapshot.hourly.filter (isCounted snapshot now)).map
        HourlyForecast.precipitationProbabilityPercent).foldl
          (lesser (OrderDual.toDual ∘ Double.toRat)) .zero := by
  have hlesser (maximum probability : Double) :
      lesser (OrderDual.toDual ∘ Double.toRat) maximum probability =
        if maximum.lt probability then probability else maximum := by
    simp [lesser, Double.lt]
  rw [List.foldl_map, List.foldl_filter]
  unfold WeatherService.todayMaximum
  refine List.foldl_ext _ _ _ fun maximum row _ => ?_
  rw [hlesser]
  by_cases hc : isCounted snapshot now row
  case pos =>
    rw [if_pos hc]
    unfold isCounted at hc
    simp [hc]
  case neg =>
    rw [if_neg hc]
    unfold isCounted at hc
    simp [hc]

theorem greatest_todayMaximum (snapshot : Snapshot) (now : QDateTime) :
    Least (OrderDual.toDual ∘ Double.toRat)
      (.zero :: (snapshot.hourly.filter (isCounted snapshot now)).map
        HourlyForecast.precipitationProbabilityPercent)
      (WeatherService.todayMaximum snapshot now) := by
  rw [todayMaximum_eq]
  exact least_foldl _ _ _

/-- The greatest of zero and some values is that of the values, if there is one from zero. -/
theorem isMaximum_of_greatest {values : List Double} {value : Double}
    (h : Least (OrderDual.toDual ∘ Double.toRat) (.zero :: values) value)
    (hvalues : values ≠ [] → ∃ v ∈ values, 0 ≤ v.toRat) : IsMaximum value values := by
  obtain ⟨hmem, hleast⟩ := h
  have hupper : ∀ v ∈ values, v.toRat ≤ value.toRat := fun v hv =>
    OrderDual.toDual_le_toDual.mp (hleast v (List.mem_cons_of_mem _ hv))
  refine ⟨fun hempty => ?_, fun hne => ?_, hupper⟩
  · rwa [hempty, List.mem_singleton] at hmem
  · rcases List.mem_cons.mp hmem with rfl | hmem
    · obtain ⟨v, hv, hnonneg⟩ := hvalues hne
      have hle : v.toRat ≤ Double.zero.toRat := hupper v hv
      rw [Double.toRat_zero] at hle ⊢
      exact ⟨v, hv, le_antisymm hle hnonneg⟩
    · exact ⟨value, hmem, rfl⟩

end Rows

section Timer

variable {service : WeatherService} {now : QDateTime} {delay : Int}

/-- The timer is started for the end of the local hour, if anything has been fetched. -/
theorem localHourTimer_eq :
    (service.scheduleLocalHourBoundary now).localHourTimer = some delay ↔
      service.snapshot.fetchedUtc.isValid ∧
        now.toMSecsSinceEpoch + delay =
          localHourStart service.snapshot now + 3600000 + 1 := by
  unfold WeatherService.scheduleLocalHourBoundary localHourStart maximumDelay
  dsimp only
  split
  case isTrue hfetched =>
    simp only [Option.some_inj, hfetched, true_and]
    omega
  case isFalse hfetched => simp [hfetched]

/-- It is in time for a row exactly if the row started in the current local hour or later. -/
theorem timer_inTime_iff {row : HourlyForecast} :
    (∃ delay, (service.scheduleLocalHourBoundary now).localHourTimer = some delay ∧
      now.toMSecsSinceEpoch + delay ≤ row.timestampUtc.toMSecsSinceEpoch + 3600000 + 1) ↔
      service.snapshot.fetchedUtc.isValid ∧
        localHourStart service.snapshot now ≤ row.timestampUtc.toMSecsSinceEpoch := by
  simp only [localHourTimer_eq]
  constructor
  · rintro ⟨delay, ⟨hfetched, hdelay⟩, hle⟩
    exact ⟨hfetched, by omega⟩
  · rintro ⟨hfetched, hle⟩
    exact ⟨localHourStart service.snapshot now + 3600000 + 1 - now.toMSecsSinceEpoch,
      ⟨hfetched, by omega⟩, by omega⟩

/-- Where the offset is a whole number of hours, no row that remains started before. -/
theorem aligned_of_wholeHours {row : HourlyForecast}
    (hoffset : service.snapshot.timezoneOffsetSeconds % 3600 = 0)
    (hnow : now.isValid ∧ now.offsetSeconds = 0) (hrow : WholeHour row.timestampUtc)
    (h : isRemaining service.snapshot now row) :
    localHourStart service.snapshot now ≤ row.timestampUtc.toMSecsSinceEpoch := by
  simp only [isRemaining, QDateTime.lt, Bool.and_eq_true, decide_eq_true_eq] at h
  obtain ⟨⟨hvalid, -⟩, helapsed⟩ := h
  have hwhole := (hrow hvalid).2
  rw [addSecs_toMSecsSinceEpoch hvalid] at helapsed
  rw [localHourStart, addSecs_localMSecs hnow.1 hnow.2]
  omega

/-- The precipitation of the rest of the day is that of the rows that remain, and is computed again
in time, exactly if none of them started before the current local hour. -/
theorem showsRemaining_iff (hnow : now.isValid ∧ now.offsetSeconds = 0)
    (hrows : ∀ row ∈ service.snapshot.hourly, WholeHour row.timestampUtc) :
    ShowsRemaining service now ↔ InStep service now := by
  have hgreatest := greatest_todayMaximum service.snapshot now
  have hcounted (haligned : ∀ row ∈ remaining service.snapshot now,
      localHourStart service.snapshot now ≤ row.timestampUtc.toMSecsSinceEpoch) :
      service.snapshot.hourly.filter (isCounted service.snapshot now) =
        remaining service.snapshot now := by
    refine List.filter_congr fun row hrow => ?_
    rw [Bool.eq_iff_iff, isCounted_iff hnow (hrows row hrow)]
    exact and_iff_left_of_imp fun hr => haligned row (List.mem_filter.mpr ⟨hrow, hr⟩)
  constructor
  · rintro ⟨hvalue, htimer⟩
    have htimer := fun row hrow => timer_inTime_iff.mp (htimer row hrow)
    refine ⟨fun row hrow => (htimer row hrow).2, fun hne => ?_, fun hne => ?_⟩
    · obtain ⟨row, hrow⟩ := List.exists_mem_of_ne_nil _ hne
      exact (htimer row hrow).1
    · have hne : (remaining service.snapshot now).map
          HourlyForecast.precipitationProbabilityPercent ≠ [] := fun hnil =>
        hne (List.map_eq_nil_iff.mp hnil)
      obtain ⟨v, hv, heq⟩ := hvalue.attained hne
      obtain ⟨row, hrow, rfl⟩ := List.mem_map.mp hv
      refine ⟨row, hrow, ?_⟩
      rw [heq, ← Double.toRat_zero]
      exact OrderDual.toDual_le_toDual.mp (hgreatest.2 .zero List.mem_cons_self)
  · rintro ⟨haligned, hfetched, hprobable⟩
    refine ⟨?_, fun row hrow => timer_inTime_iff.mpr ⟨hfetched (List.ne_nil_of_mem hrow),
      haligned row hrow⟩⟩
    rw [hcounted haligned] at hgreatest
    refine isMaximum_of_greatest hgreatest fun hne => ?_
    obtain ⟨row, hrow, hnonneg⟩ := hprobable (fun hnil => hne (by rw [hnil]; rfl))
    exact ⟨_, List.mem_map_of_mem hrow, hnonneg⟩

def hourlyRow (msecs percent : Int) : HourlyForecast where
  timestampUtc := { msecs := some msecs }
  iconCode := ""
  temperatureCelsius := .zero
  precipitationProbabilityPercent := .ofInt percent

/-- A service that shows these rows at this offset. -/
def showing (timezoneOffsetSeconds : Int) (fetched : Int) (hourly : List HourlyForecast) :
    WeatherService where
  config := {}
  snapshot := { timezoneOffsetSeconds, fetchedUtc := { msecs := some fetched }, hourly }

/-- Two hours east of Greenwich, 35 minutes past midnight, one day of rows and the next. -/
def eastern : WeatherService :=
  showing 7200 1788215700000 [hourlyRow 1788210000000 99, hourlyRow 1788213600000 25,
    hourlyRow 1788296400000 70, hourlyRow 1788300000000 95]

theorem showsRemaining_eastern : ShowsRemaining eastern { msecs := some 1788215700000 } := by
  have hrows : ∀ row ∈ eastern.snapshot.hourly, WholeHour row.timestampUtc := by
    simp only [eastern, showing, hourlyRow, List.forall_mem_cons, List.not_mem_nil, false_implies,
      implies_true, and_true]
    exact ⟨fun _ => by decide, fun _ => by decide, fun _ => by decide, fun _ => by decide⟩
  refine (showsRemaining_iff ⟨rfl, rfl⟩ hrows).mpr ⟨fun row hrow => ?_, fun _ => rfl, fun _ => ?_⟩
  · obtain ⟨hmem, hremaining⟩ := List.mem_filter.mp hrow
    exact aligned_of_wholeHours (by decide) ⟨rfl, rfl⟩ (hrows row hmem) hremaining
  · exact ⟨hourlyRow 1788213600000 25, by decide +kernel, by decide +kernel⟩

/-- Five and a half hours east of Greenwich, ten minutes past a local hour: the row that contains
now is not counted. -/
theorem half_hour_missed :
    (∀ row ∈ (showing 19800 1788266400000 [hourlyRow 1788264000000 80]).snapshot.hourly,
      WholeHour row.timestampUtc) ∧
    ¬ ShowsRemaining (showing 19800 1788266400000 [hourlyRow 1788264000000 80])
      { msecs := some 1788266400000 } := by
  constructor
  · simp only [showing, List.forall_mem_singleton]
    exact fun _ => by decide
  · intro h
    exact absurd (h.value.upper (.ofInt 80) (by decide +kernel)) (by decide +kernel)

end Timer

end RpiDashboard.Weather
