import RpiDashboard.Weather.WeatherService

/-! The two replies to a forecast request, in either order. -/

namespace RpiDashboard.Weather

open Numeric Qt

namespace WeatherService

variable {qt : QtText} {service : WeatherService} {now : QDateTime} {snapshot : Snapshot}

/-- A forecast for this place has been requested and has not arrived. -/
structure AwaitsForecast (service : WeatherService) (location : Location) : Prop where
  inFlight : service.inFlight
  operation : service.operation = .requestForecast
  location : service.location = location

/-- The forecast as it is shown, without air quality. -/
def shown (snapshot : Snapshot) (now : QDateTime) : Snapshot :=
  withTodayMaximum
    (if snapshot.todayPrecipitationKind = "" then { snapshot with todayPrecipitationKind := "none" }
    else snapshot) now

@[simp] theorem saveCache_snapshot : service.saveCache.snapshot = service.snapshot := by
  unfold saveCache
  split <;> rfl

@[simp] theorem scheduleLocalHourBoundary_snapshot :
    (service.scheduleLocalHourBoundary now).snapshot = service.snapshot := by
  unfold scheduleLocalHourBoundary
  split <;> rfl

@[simp] theorem airQualityReady_snapshot {airQuality : AirQuality} :
    (service.airQualityReady airQuality).snapshot =
      { service.snapshot with airQuality := some airQuality } :=
  saveCache_snapshot

theorem publish_snapshot : (service.publish qt snapshot now).snapshot =
    withTodayMaximum (mergeAirQuality qt service.snapshot snapshot) now := by
  simp only [publish, saveCache_snapshot]
  exact scheduleLocalHourBoundary_snapshot

/-- A forecast without air quality takes over that of a snapshot of the same place. -/
theorem publish_snapshot_of_none (ha : snapshot.airQuality = none) :
    (service.publish qt snapshot now).snapshot = { shown snapshot now with
      airQuality :=
        if service.snapshot.location.cacheKey qt = snapshot.location.cacheKey qt then
          service.snapshot.airQuality
        else none } := by
  rw [publish_snapshot, mergeAirQuality, shown]
  by_cases hk : snapshot.todayPrecipitationKind = "" <;>
    by_cases hs : service.snapshot.location.cacheKey qt = snapshot.location.cacheKey qt <;>
      simp [hk, hs, ha, withTodayMaximum, todayMaximum]

variable {location : Location} {airQuality : AirQuality}

/-- Both orders show the new forecast with the new air quality just if the snapshot in place
is one of the same place, or lies there by its default coordinates. -/
theorem forecast_airQuality_commute_iff (h : service.AwaitsForecast location)
    (hl : snapshot.location = location) (ha : snapshot.airQuality = none) :
    (((service.publish qt snapshot now).airQualityReady airQuality).snapshot =
        { shown snapshot now with airQuality := some airQuality } ∧
      ((service.airQualityReady airQuality).publish qt snapshot now).snapshot =
        { shown snapshot now with airQuality := some airQuality }) ↔
      service.snapshot.location.cacheKey qt = service.location.cacheKey qt := by
  rw [h.location, ← hl]
  have hafter : ((service.publish qt snapshot now).airQualityReady airQuality).snapshot =
      { shown snapshot now with airQuality := some airQuality } := by
    rw [airQualityReady_snapshot, publish_snapshot_of_none ha]
  have hbefore : ((service.airQualityReady airQuality).publish qt snapshot now).snapshot =
      { shown snapshot now with
        airQuality :=
          if service.snapshot.location.cacheKey qt = snapshot.location.cacheKey qt then
            some airQuality
          else none } := by
    rw [publish_snapshot_of_none ha, airQualityReady_snapshot]
  rw [hafter, hbefore]
  by_cases hs : service.snapshot.location.cacheKey qt = snapshot.location.cacheKey qt
  · simp [hs]
  · simp [hs]

section Sample

def sampleText : QtText where
  fromJson _ := none
  fromIsoDate _ := {}
  fixed := fixedText
  urlText url := url.text
  toLower text := text
  sameLetters a b := a = b
  toLongLong _ := none
  withoutQueries text := text

/-- 49.84 degrees north, 24.03 degrees east. -/
def sampleConfig : WeatherConfig where
  locationMode := .coordinates
  latitude := ⟨0x4048eb851eb851ec⟩
  longitude := ⟨0x403807ae147ae148⟩

def samplePlace : Location where
  latitude := sampleConfig.latitude
  longitude := sampleConfig.longitude

def sampleNow : QDateTime := { msecs := some 1750000000000 }

def sampleSnapshot : Snapshot where
  provider := "openweather"
  location := samplePlace
  fetchedUtc := sampleNow

def sampleAirQuality : AirQuality where
  index := 2
  category := "fair"

/-- The first start, without a cache. -/
def sampleStart : WeatherService := .initialized sampleText sampleConfig "" none sampleNow

/-- After the first forecast, and a refresh. -/
def sampleAgain : WeatherService := (sampleStart.publish sampleText sampleSnapshot sampleNow).refresh

theorem sampleAgain_awaits : sampleAgain.AwaitsForecast samplePlace :=
  ⟨by decide +kernel, by decide +kernel, by decide +kernel⟩

theorem forecast_airQuality_commute_sample :
    ((sampleAgain.publish sampleText sampleSnapshot sampleNow).airQualityReady
        sampleAirQuality).snapshot =
      { shown sampleSnapshot sampleNow with airQuality := some sampleAirQuality } ∧
    ((sampleAgain.airQualityReady sampleAirQuality).publish sampleText sampleSnapshot
        sampleNow).snapshot =
      { shown sampleSnapshot sampleNow with airQuality := some sampleAirQuality } :=
  (forecast_airQuality_commute_iff sampleAgain_awaits rfl rfl).mpr (by decide +kernel)

/-- On the first start an air quality that arrives first is lost. -/
theorem first_airQuality_lost :
    sampleStart.AwaitsForecast samplePlace ∧ sampleSnapshot.airQuality = none ∧
    sampleSnapshot.location = samplePlace ∧
    ((sampleStart.publish sampleText sampleSnapshot sampleNow).airQualityReady
        sampleAirQuality).snapshot ≠
      ((sampleStart.airQualityReady sampleAirQuality).publish sampleText sampleSnapshot
        sampleNow).snapshot := by
  refine ⟨⟨rfl, rfl, rfl⟩, rfl, rfl, fun h => ?_⟩
  have hlost : ((sampleStart.airQualityReady sampleAirQuality).publish sampleText sampleSnapshot
      sampleNow).snapshot.airQuality = none := by decide +kernel
  rw [← h] at hlost
  exact absurd hlost (by decide +kernel)

end Sample

end WeatherService

end RpiDashboard.Weather
