import RpiDashboard.Data.Run
import RpiDashboard.Weather.WeatherTypes

/-! The weather service (`weather/weather_service.cpp`): one operation at a time, a
single-shot timer for the next, and the snapshot it publishes. -/

namespace RpiDashboard.Weather

open Numeric Qt

inductive LocationMode
  | automatic | city | coordinates
  deriving DecidableEq

structure WeatherConfig where
  provider : QString := "openweather"
  refreshIntervalSeconds : Int := 600
  locationMode : LocationMode := .automatic
  automaticProvider : QString := "ipgeolocation"
  city : QString := ""
  latitude : Double := .zero
  longitude : Double := .zero

inductive Operation
  | none | resolveLocation | requestForecast
  deriving DecidableEq

inductive ServiceState
  | unconfigured | locating | loading | ready | error
  deriving DecidableEq

/-- The rows of `HourlyForecastModel` with the offset and the extrema they are shown with. -/
structure HourlyForecastModel where
  rows : List HourlyForecast := []
  timezoneOffsetSeconds : Int := 0
  minimumTemperature : Double := .zero
  maximumTemperature : Double := .zero

structure DailyForecastModel where
  rows : List DailyForecast := []
  timezoneOffsetSeconds : Int := 0

def HourlyForecastModel.replace (model : HourlyForecastModel) (rows : List HourlyForecast)
    (timezoneOffsetSeconds : Int) : HourlyForecastModel :=
  let rows := rows.take 8
  match rows.map HourlyForecast.temperatureCelsius with
  | [] => { model with rows, timezoneOffsetSeconds }
  | t :: ts =>
    { rows, timezoneOffsetSeconds
      minimumTemperature := ts.foldl (fun least t => if t.lt least then t else least) t
      maximumTemperature := ts.foldl (fun greatest t => if t.lt greatest then greatest else t) t }

def DailyForecastModel.replace (rows : List DailyForecast) (timezoneOffsetSeconds : Int) :
    DailyForecastModel :=
  { rows := rows.take 5, timezoneOffsetSeconds }

/-- What the service asks of its providers. -/
inductive Request
  | forecast : Location → Request
  | geocode : QString → Request
  | locate : Request
  deriving DecidableEq

def Request.isForecast : Request → Bool
  | .forecast _ => true
  | _ => false

/-- The configured service.  A timer is its remaining delay in milliseconds, none while
it is inactive; `requests` are the calls of the providers, the latest last, and `saved`
what has been written to the cache. -/
structure WeatherService where
  config : WeatherConfig
  location : Location := {}
  snapshot : Snapshot := {}
  hourlyModel : HourlyForecastModel := {}
  dailyModel : DailyForecastModel := {}
  refreshTimer : Option Int := none
  solarEventTimer : Option Int := none
  localHourTimer : Option Int := none
  nextSolarEventUtc : QDateTime := {}
  nextSolarEventKind : QString := ""
  state : ServiceState := .unconfigured
  diagnostics : QString := ""
  stale : Bool := false
  inFlight : Bool := false
  locationResolved : Bool := false
  authenticationStopped : Bool := false
  operation : Operation := .none
  failureCount : Int := 0
  requests : List Request := []
  saved : List Snapshot := []

def supportedIcons : List QString :=
  ["01", "02", "03", "04", "09", "10", "11", "13", "50"]

def isSupportedIconCode (code : QString) : Bool :=
  supportedIcons.any fun icon => code = icon ++ "d" || code = icon ++ "n"

/-- Sunrise and sunset of each day, in the order of the loop. -/
def solarEvents (daily : List DailyForecast) : List (QDateTime × QString) :=
  daily.flatMap fun day => [(day.sunriseUtc, "sunrise"), (day.sunsetUtc, "sunset")]

def selectSolarEvent (now : QDateTime) (selected : QDateTime × QString)
    (event : QDateTime × QString) : QDateTime × QString :=
  if event.1.isValid && now.lt event.1 && (!selected.1.isValid || event.1.lt selected.1) then event
  else selected

/-- The greatest delay a timer takes. -/
def maximumDelay : Int := 2147483647

namespace WeatherService

def updateNextSolarEvent (service : WeatherService) (now : QDateTime) : WeatherService :=
  let selected := (solarEvents service.snapshot.daily).foldl (selectSolarEvent now) ({}, "")
  let iconCode :=
    if isSupportedIconCode service.snapshot.current.iconCode then service.snapshot.current.iconCode
    else "03d"
  let kind :=
    if selected.1.isValid then selected.2
    else if iconCode.endsWith "n" then "sunrise" else "sunset"
  { service with
    nextSolarEventUtc := selected.1
    nextSolarEventKind := kind
    solarEventTimer :=
      if selected.1.isValid then some (min (max 1 (now.msecsTo selected.1 + 1)) maximumDelay)
      else none }

/-- The greatest probability of the rows of today's remaining hours, on the local clock. -/
def todayMaximum (snapshot : Snapshot) (now : QDateTime) : Double :=
  let localNow := now.addSecs snapshot.timezoneOffsetSeconds
  snapshot.hourly.foldl (fun maximum row =>
    let localTimestamp := row.timestampUtc.addSecs snapshot.timezoneOffsetSeconds
    if row.timestampUtc.isValid && localTimestamp.date = localNow.date &&
        localNow.hour ≤ localTimestamp.hour &&
        maximum.lt row.precipitationProbabilityPercent then row.precipitationProbabilityPercent
    else maximum) .zero

def withTodayMaximum (snapshot : Snapshot) (now : QDateTime) : Snapshot :=
  { snapshot with
    todayPrecipitationProbabilityPercent := todayMaximum snapshot now
    todayRainProbabilityPercent := todayMaximum snapshot now }

def updateTodayPrecipitationProbability (service : WeatherService) (now : QDateTime) :
    WeatherService :=
  { service with snapshot := withTodayMaximum service.snapshot now }

def scheduleLocalHourBoundary (service : WeatherService) (now : QDateTime) : WeatherService :=
  if service.snapshot.fetchedUtc.isValid then
    let localNow := now.addSecs service.snapshot.timezoneOffsetSeconds
    let delay := 3600000 - localNow.localMSecs % 3600000 + 1
    { service with localHourTimer := some (min (max 1 delay) maximumDelay) }
  else { service with localHourTimer := none }

def saveCache (service : WeatherService) : WeatherService :=
  if service.snapshot.fetchedUtc.isValid then
    { service with saved := service.saved ++ [service.snapshot] }
  else service

/-- The request of the operation that is started. -/
def nextRequest (service : WeatherService) : Request :=
  if service.locationResolved then .forecast service.location
  else if service.config.locationMode = .city then .geocode service.config.city
  else .locate

def startOperation (service : WeatherService) (manual : Bool) : WeatherService :=
  if service.inFlight then service
  else if !manual && service.authenticationStopped then service
  else
    let service := if manual then
      { service with authenticationStopped := false, refreshTimer := none } else service
    { service with
      inFlight := true
      operation := if service.locationResolved then .requestForecast else .resolveLocation
      state := if service.locationResolved then .loading else .locating
      stale := service.stale || service.snapshot.fetchedUtc.isValid
      diagnostics := ""
      requests := service.requests ++ [service.nextRequest] }

def refresh (service : WeatherService) : WeatherService := service.startOperation true

/-- A snapshot of another place is dropped. -/
def dropSnapshot (service : WeatherService) (now : QDateTime) : WeatherService :=
  let service := { service with
    snapshot := {}
    hourlyModel := service.hourlyModel.replace [] 0
    dailyModel := .replace [] 0
    stale := false }
  service.updateNextSolarEvent now

def setLocation (qt : QtText) (service : WeatherService) (location : Location) (now : QDateTime) :
    WeatherService :=
  let service := { service with
    inFlight := false, operation := .none, location, locationResolved := true }
  let service :=
    if service.snapshot.fetchedUtc.isValid &&
        service.snapshot.location.cacheKey qt != location.cacheKey qt then service.dropSnapshot now
    else service
  service.startOperation false

/-- The air quality shown stays, as long as the place is the same. -/
def mergeAirQuality (qt : QtText) (previous snapshot : Snapshot) : Snapshot :=
  let snapshot := if snapshot.todayPrecipitationKind = "" then
    { snapshot with todayPrecipitationKind := "none" } else snapshot
  if snapshot.airQuality = none && previous.location.cacheKey qt = snapshot.location.cacheKey qt then
    { snapshot with airQuality := previous.airQuality }
  else snapshot

def publish (qt : QtText) (service : WeatherService) (snapshot : Snapshot) (now : QDateTime) :
    WeatherService :=
  let service := { service with snapshot := mergeAirQuality qt service.snapshot snapshot }
  let service := service.updateTodayPrecipitationProbability now
  let service := service.scheduleLocalHourBoundary now
  let service := { service with
    hourlyModel :=
      service.hourlyModel.replace service.snapshot.hourly service.snapshot.timezoneOffsetSeconds
    dailyModel := .replace service.snapshot.daily service.snapshot.timezoneOffsetSeconds }
  let service := service.updateNextSolarEvent now
  let service := { service with
    inFlight := false
    operation := .none
    stale := false
    failureCount := 0
    state := .ready
    diagnostics := ""
    refreshTimer := some (service.config.refreshIntervalSeconds * 1000) }
  service.saveCache

def airQualityReady (service : WeatherService) (airQuality : AirQuality) : WeatherService :=
  let service := { service with snapshot := { service.snapshot with airQuality := some airQuality } }
  service.saveCache

def airQualityFailed (qt : QtText) (service : WeatherService) (diagnostic : QString) :
    WeatherService :=
  { service with diagnostics := qt.withoutQueries diagnostic }

/-- The delay before the next attempt, in seconds. -/
def backoff (service : WeatherService) (retryAfterSeconds : Int) : Int :=
  let doubled := 30 * 2 ^ (min (service.failureCount - 1) 5).toNat
  max (min service.config.refreshIntervalSeconds doubled) retryAfterSeconds

def fail (qt : QtText) (service : WeatherService) (diagnostic : QString)
    (authenticationFailure : Bool) (retryAfterSeconds : Int) : WeatherService :=
  let service := { service with
    inFlight := false
    operation := .none
    diagnostics := qt.withoutQueries diagnostic
    stale := service.snapshot.fetchedUtc.isValid
    state := .error
    authenticationStopped := authenticationFailure }
  if authenticationFailure then service
  else
    let service := { service with failureCount := service.failureCount + 1 }
    { service with refreshTimer := some (service.backoff retryAfterSeconds * 1000) }

/-- What `loadCache` makes of a cache it accepts. -/
def restore (service : WeatherService) (cached : Snapshot) (now : QDateTime) : WeatherService :=
  let service := { service with snapshot := cached }
  let service := service.updateTodayPrecipitationProbability now
  let service := service.scheduleLocalHourBoundary now
  let service := { service with
    hourlyModel := service.hourlyModel.replace cached.hourly cached.timezoneOffsetSeconds
    dailyModel := .replace cached.daily cached.timezoneOffsetSeconds }
  let service := service.updateNextSolarEvent now
  { service with stale := cached.fetchedUtc.secsTo now > 1200, state := .ready }

/-- The constructor and its initialization, for a configured service: `cached` is what the
cache file holds if it is accepted, `diagnostics` what the credentials lack. -/
def initialized (qt : QtText) (config : WeatherConfig) (diagnostics : QString)
    (cached : Option Snapshot) (now : QDateTime) : WeatherService :=
  let service : WeatherService := { config, diagnostics }
  let service := match cached with
    | some cached => service.restore cached now
    | none => service
  if diagnostics ≠ "" then { service with state := .error }
  else if config.locationMode = .coordinates then
    service.setLocation qt { latitude := config.latitude, longitude := config.longitude } now
  else service.startOperation false

end WeatherService

end RpiDashboard.Weather
